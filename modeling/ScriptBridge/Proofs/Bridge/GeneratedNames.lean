import ScriptBridge.Bridge.Callbacks
import ScriptBridge.Proofs.Numeral.Decimals

/-!
# Generated names

Commands of callbacks and linked variables have names that their session generates: the namespace of
the session, which is an identifier, a stem, and a number. The slot of a callback is read back from
the name of its command.
-/

namespace ScriptBridge

namespace Settings

variable {settings : Settings}

/-- No colons stand in front of an identifier. -/
theorem key_append_of_isIdentifier
    {text : String}
    (identifier : isIdentifier text = true)
    (rest : String) :
    Name.key (text ++ rest) = text ++ rest := by
  unfold isIdentifier at identifier
  split at identifier
  · cases identifier
  · rename_i first others characters
    have noColon : first ≠ ':' := by
      rintro rfl
      rw [Bool.and_eq_true] at identifier
      exact absurd identifier.1 (by decide)
    have unqualified : Name.dropQualifier (text ++ rest).toList = (text ++ rest).toList := by
      rw [String.toList_append, characters, List.cons_append, Name.dropQualifier]
      intro _ same
      exact noColon (List.cons.inj same).1
    rw [Name.key, unqualified, String.ofList_toList]

/-- The generated name of the callback in a slot. -/
def callbackName (settings : Settings) (slot : Nat) : String :=
  settings.callbackStem ++ toString slot

theorem key_callbackName
    (valid : settings.validate = .ok ())
    (slot : Nat) :
    Name.key (settings.callbackName slot) = settings.callbackName slot := by
  rw [callbackName, callbackStem, String.append_assoc]
  exact key_append_of_isIdentifier (validate_eq_ok_iff.mp valid) _

end Settings

/-! ## Reading names -/

namespace Session

variable {settings : Settings} {name : String} {slot : Nat}

/-- Only generated names are read as slots, apart from colons in front. -/
theorem key_of_slotOf? (isName : slotOf? settings name = some slot) :
    Name.key name = settings.callbackName slot := by
  unfold slotOf? at isName
  split at isName
  · cases isName
  · rename_i digits dropped
    dsimp only at isName
    split at isName
    · rename_i spelled
      rw [Option.some.inj isName] at spelled
      rw [Name.key, (Index.dropStart?_eq_some_iff _ _ _).mp dropped, String.ofList_append,
        String.ofList_toList, ← spelled, String.ofList_toList]
      rfl
    · cases isName

theorem slotOf?_callbackName
    (valid : settings.validate = .ok ())
    (slot : Nat) :
    slotOf? settings (settings.callbackName slot) = some slot := by
  have unqualified : Name.dropQualifier (settings.callbackName slot).toList =
      settings.callbackStem.toList ++ (toString slot).toList := by
    have key := congrArg String.toList (Settings.key_callbackName valid slot)
    rw [Name.key, String.toList_ofList] at key
    rw [key, Settings.callbackName, String.toList_append]
  unfold slotOf?
  rw [unqualified, (Index.dropStart?_eq_some_iff _ _ _).mpr rfl]
  dsimp only
  rw [Numeral.natOfDigits_toString, if_pos rfl]

end Session

end ScriptBridge
