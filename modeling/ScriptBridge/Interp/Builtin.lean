/-!
# Built-in commands

The built-in commands by their meaning. A script may rename them, so a command table maps names to
these.
-/

namespace ScriptBridge

inductive Builtin where
  | set | unset | incr | append
  | list | llength | lindex | lappend | concat | join
  | string
  | expr | ifThen | whileLoop | forLoop | foreachLoop
  | proc | returnValue | breakLoop | continueLoop | error | catchError | eval | subst
  | puts | rename | namespaces | info | globals
  | after | update | exit
  /-- Creation of a widget, whose class the name of the command says. -/
  | createWidget
  /-- A geometry manager, likewise said by the name of the command. -/
  | manage
  | destroy | bind | event | focus | wm | winfo
  deriving Repr, DecidableEq

/-- The names of the built-in commands other than those that create widgets. -/
def Builtin.table : List (String × Builtin) := [
  ("set", .set), ("unset", .unset), ("incr", .incr), ("append", .append), ("list", .list),
  ("llength", .llength), ("lindex", .lindex), ("lappend", .lappend), ("concat", .concat),
  ("join", .join), ("string", .string), ("expr", .expr), ("if", .ifThen), ("while", .whileLoop),
  ("for", .forLoop), ("foreach", .foreachLoop), ("proc", .proc), ("return", .returnValue),
  ("break", .breakLoop), ("continue", .continueLoop), ("error", .error), ("catch", .catchError),
  ("eval", .eval), ("subst", .subst), ("puts", .puts), ("rename", .rename),
  ("namespace", .namespaces), ("info", .info), ("global", .globals), ("after", .after),
  ("update", .update), ("exit", .exit), ("pack", .manage), ("grid", .manage), ("place", .manage),
  ("destroy", .destroy), ("bind", .bind), ("event", .event), ("focus", .focus), ("wm", .wm),
  ("winfo", .winfo)]

end ScriptBridge
