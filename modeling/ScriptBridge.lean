import ScriptBridge.Main
import ScriptBridge.Bridge.Expressions
import ScriptBridge.Vocabulary.Starters
import ScriptBridge.Proofs.Lists.RoundTrip
import ScriptBridge.Proofs.Script.Sequences
import ScriptBridge.Proofs.Interp.Exits
import ScriptBridge.Proofs.Bridge.Bracketings
import ScriptBridge.Proofs.Bridge.Calls
import ScriptBridge.Proofs.Bridge.CallStacks
import ScriptBridge.Proofs.Bridge.EventQueues
import ScriptBridge.Proofs.Bridge.Guards
import ScriptBridge.Proofs.Bridge.HeldFailures
import ScriptBridge.Proofs.Bridge.Merging
import ScriptBridge.Proofs.Bridge.WidgetTables
import ScriptBridge.Proofs.Vocabulary.EventScripts
import ScriptBridge.Proofs.Vocabulary.QuotedValues
import ScriptBridge.Proofs.Program.Arguments
import ScriptBridge.Proofs.Program.Output
import ScriptBridge.Proofs.Bridge.PresentLinks
import ScriptBridge.Proofs.Arithmetic.WrittenFormulas
import ScriptBridge.Proofs.Arithmetic.FewestTokens
import ScriptBridge.Proofs.Script.Parts
import ScriptBridge.Proofs.Script.Passages
import ScriptBridge.Proofs.Script.Progress
import ScriptBridge.Proofs.Arithmetic.Brackets
import ScriptBridge.Proofs.Lists.JoinedLists
import ScriptBridge.Proofs.Script.ContinuedLines
import ScriptBridge.Proofs.Bridge.QualifiedNames
import ScriptBridge.Proofs.Bridge.WidgetScripts
import ScriptBridge.Proofs.Numeral.Integers
import ScriptBridge.Proofs.Arithmetic.IntegerFunctions
import ScriptBridge.Proofs.Arithmetic.ComparedTexts
import ScriptBridge.Proofs.Interp.TextPositions
import ScriptBridge.Proofs.Interp.ProcedureCalls
import ScriptBridge.Proofs.Program.CommandLines
import ScriptBridge.Proofs.Program.SettingsLayers
import ScriptBridge.Proofs.Interp.WidgetFailures
import ScriptBridge.Proofs.Bridge.VariableLaws
import ScriptBridge.Proofs.Bridge.UnlinkedVariables
import ScriptBridge.Proofs.Interp.GlobPatterns
