import DeskCalc.Proofs.Command.Refusals
import DeskCalc.Proofs.Expression.Faults
import DeskCalc.Proofs.Memory.Calls
import DeskCalc.Proofs.Memory.Entering

/-! # Failing lines

With which faults a line can fail that is entered into a memory.

* `Memory.CallFault`, `Memory.EntryFault`: the faults of a call, and of a line.
* `Memory.callFault_of_call`, `Memory.entryFault_of_enter`: there are no others.
* `Memory.EntryFault.read_eq`: only what is refused when it is read is told that the line is malformed.
-/

namespace DeskCalc
open DeskCalc.Number DeskCalc.Text
set_option autoImplicit false

variable {α : Type}

theorem Fault.OfRow.kind_ne {ts : List (Token α)} {e : Fault} (h : e.OfRow ts) : e.kind ≠ .malformedLine := by
  cases e with
  | undefinedName | divisionByZero | missingOperand | unbalanced | emptyExpression | looseOperands =>
    exact fun h => nomatch h
  | _ => cases h

namespace Memory

variable [Scalar α]

/-! ## Calls -/

inductive CallFault (m : Memory α) (name : String) (arguments : List String) : Fault → Prop where
  | unknown (h : m.functions.get? name = none) : CallFault m name arguments (.undefinedFunction name)
  | many {f : Formula α} (hf : m.functions.get? name = some f) (h : f.arity < arguments.length) :
    CallFault m name arguments (.tooManyArguments name f.arity arguments.length)
  | few {f : Formula α} (hf : m.functions.get? name = some f) (h : arguments.length < f.arity) :
    CallFault m name arguments (.tooFewArguments name f.arity arguments.length)
  | argument {a : String} (ha : a ∈ arguments) (h : m.argumentValue? a = none) :
    CallFault m name arguments (.unknownArgument (trimmed a))
  | body {f : Formula α} (hf : m.functions.get? name = some f) {fault : Fault} (h : fault.OfRow f.body) :
    CallFault m name arguments fault

theorem bindArguments_eq_error {m : Memory α} {params arguments : List String} {fault : Fault}
    (h : m.bindArguments (params.zip arguments) = .error fault) :
    ∃ a ∈ arguments, m.argumentValue? a = none ∧ fault = .unknownArgument (trimmed a) := by
  rw [bindArguments_eq] at h
  cases hunknown : m.firstUnknown? ((params.zip arguments).map Prod.snd) with
  | none =>
    rw [hunknown] at h
    cases h
  | some a =>
    rw [hunknown] at h
    cases h
    obtain ⟨p, hp, ha⟩ := List.mem_map.mp (List.mem_of_find?_eq_some hunknown)
    subst ha
    exact ⟨p.2, (List.of_mem_zip hp).2, by simpa using List.find?_some hunknown, rfl⟩

theorem callFault_of_call {m : Memory α} {name : String} {arguments : List String} {fault : Fault}
    (h : (m.call name arguments).outcome = .error fault) : CallFault m name arguments fault := by
  rw [call] at h
  cases hf : m.functions.get? name with
  | none =>
    rw [hf] at h
    cases h
    exact .unknown hf
  | some f =>
    rw [hf] at h
    dsimp only at h
    split at h
    · next hmany =>
      cases h
      exact .many hf hmany
    · split at h
      · next hfew =>
        cases h
        exact .few hf hfew
      · rcases Traced.outcome_bind_eq_error.mp h with h | ⟨own, _, h⟩
        · obtain ⟨a, ha, hnone, rfl⟩ := bindArguments_eq_error h
          exact .argument ha hnone
        · rcases Traced.outcome_bind_eq_error.mp h with h | ⟨_, _, h⟩
          · cases h
          · exact .body hf (evaluate_eq_error h)

theorem CallFault.kind_ne {m : Memory α} {name : String} {arguments : List String} {fault : Fault}
    (h : CallFault m name arguments fault) : fault.kind ≠ .malformedLine := by
  cases h with
  | unknown | many | few | argument => exact fun h => nomatch h
  | body _ h => exact h.kind_ne

/-! ## Lines -/

inductive EntryFault (m : Memory α) (line : String) : Fault → Prop where
  | refused {fault : Fault} (h : (Command.read line : Except Fault (Option (Command α))) = .error fault) :
    EntryFault m line fault
  | display {tokens : List (Token α)} (hread : Command.read line = .ok (some (.display tokens))) {fault : Fault}
    (h : fault.OfRow tokens) : EntryFault m line fault
  | assign {name : String} {tokens : List (Token α)} (hread : Command.read line = .ok (some (.assign name tokens)))
    {fault : Fault} (h : fault.OfRow tokens) : EntryFault m line fault
  | call {name : String} {arguments : List String}
    (hread : (Command.read line : Except Fault (Option (Command α))) = .ok (some (.call name arguments)))
    {fault : Fault} (h : CallFault m name arguments fault) : EntryFault m line fault

theorem entryFault_of_enter {m : Memory α} {line : String} {fault : Fault}
    (h : (m.enter line).outcome = .error fault) : EntryFault m line fault := by
  cases hread : (Command.read line : Except Fault (Option (Command α))) with
  | error e =>
    rw [enter_of_unreadable m hread] at h
    cases h
    exact .refused hread
  | ok read =>
    cases read with
    | none =>
      rw [enter_of_blank m hread] at h
      cases h
    | some command =>
      rw [enter_of_command m hread] at h
      cases command with
      | display tokens =>
        rcases Traced.outcome_bind_eq_error.mp h with h | ⟨_, _, h⟩
        · cases h
        rcases Traced.outcome_bind_eq_error.mp h with h | ⟨_, _, h⟩
        · exact .display hread (evaluate_eq_error h)
        · cases h
      | assign name tokens =>
        rcases Traced.outcome_bind_eq_error.mp h with h | ⟨_, _, h⟩
        · exact .assign hread (evaluate_eq_error h)
        · cases h
      | define f => cases h
      | call name arguments =>
        rcases Traced.outcome_bind_eq_error.mp h with h | ⟨_, _, h⟩
        · exact .call hread (callFault_of_call h)
        · cases h

/-- Only a line that is refused is called malformed. -/
theorem EntryFault.read_eq {m : Memory α} {line : String} {fault : Fault} (h : EntryFault m line fault)
    (hkind : fault.kind = .malformedLine) :
    (Command.read line : Except Fault (Option (Command α))) = .error fault := by
  cases h with
  | refused h => exact h
  | display _ h => exact absurd hkind h.kind_ne
  | assign _ h => exact absurd hkind h.kind_ne
  | call _ h => exact absurd hkind h.kind_ne

end Memory

end DeskCalc
