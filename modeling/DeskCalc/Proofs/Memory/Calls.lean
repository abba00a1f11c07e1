import DeskCalc.Memory.Basic
import DeskCalc.Proofs.Expression.Substitution
import DeskCalc.Table.Lemmas

/-! # Calls as substitution

The value of a call is the value of the body in which the arguments stand in the places of the parameters. No names but
the variables are needed for it, as they are when the call is made.

* `Memory.argumentValue?`, `Memory.firstUnknown?`: what an argument stands for, and the first that stands for nothing.
* `Memory.parameterValue?`: what a parameter stands for; of a repeated one the last place counts.
* `Memory.substitutedBody`, `Memory.substitutedCall`: a call by substitution.
* `Memory.bindArguments_eq`: binding arguments one after the other.
* `Memory.call_eq_substitutedCall`: calls are calls by substitution.
-/

namespace DeskCalc
open DeskCalc.Number DeskCalc.Text
set_option autoImplicit false

/-! ## Looking up pairs -/

theorem lookup_filterMap_snd {β γ : Type} {f : β → Option γ} {pairs : List (String × β)}
    (h : ∀ p ∈ pairs, (f p.2).isSome) (name : String) :
    (pairs.filterMap fun p => (p.1, ·) <$> f p.2).lookup name = (pairs.lookup name).bind f := by
  induction pairs with
  | nil => rfl
  | cons p rest ih =>
    obtain ⟨k, b⟩ := p
    have hrest := ih fun p hp => h p (.tail _ hp)
    obtain ⟨c, hc⟩ := Option.isSome_iff_exists.mp (h (k, b) (.head _))
    have hpairs : ((k, b) :: rest).filterMap (fun p => (p.1, ·) <$> f p.2) =
        (k, c) :: rest.filterMap (fun p => (p.1, ·) <$> f p.2) := by
      simp [hc]
    rw [hpairs, lookup_cons_name, lookup_cons_name, hrest]
    by_cases hn : name = k <;> simp [hn, hc]

namespace Memory

variable {α : Type} [Scalar α]

/-! ## Arguments -/

/-- The variable of this name, or else the number. -/
def argumentValue? (m : Memory α) (text : String) : Option α :=
  (m.values.get? (trimmed text)).or (Scalar.read? (trimmed text).toList)

def firstUnknown? (m : Memory α) (arguments : List String) : Option String :=
  arguments.find? fun a => (m.argumentValue? a).isNone

/-- What a name in the body stands for, if it is a parameter. -/
def parameterValue? (m : Memory α) (params arguments : List String) (name : String) : Option α :=
  ((params.zip arguments).reverse.lookup name).bind m.argumentValue?

theorem argument_of_value {m : Memory α} {text : String} {x : α} (h : m.argumentValue? text = some x) :
    m.argument text = .ok x := by
  unfold argumentValue? at h
  simp only [argument, h]

theorem argument_of_none {m : Memory α} {text : String} (h : m.argumentValue? text = none) :
    m.argument text = .error (.unknownArgument (trimmed text)) := by
  unfold argumentValue? at h
  simp only [argument, h]

theorem firstUnknown?_cons_of_value {m : Memory α} {a : String} {x : α} (h : m.argumentValue? a = some x)
    (rest : List String) : m.firstUnknown? (a :: rest) = m.firstUnknown? rest := by
  simp [firstUnknown?, h]

theorem firstUnknown?_cons_of_none {m : Memory α} {a : String} (h : m.argumentValue? a = none) (rest : List String) :
    m.firstUnknown? (a :: rest) = some a := by
  simp [firstUnknown?, h]

theorem firstUnknown?_eq_none_iff {m : Memory α} {arguments : List String} :
    m.firstUnknown? arguments = none ↔ ∀ a ∈ arguments, (m.argumentValue? a).isSome := by
  simp [firstUnknown?, List.find?_eq_none, Option.isSome_iff_ne_none]

/-! ## Binding -/

/-- The pairs of names and values, without those that have no value. -/
def valuePairs (m : Memory α) (pairs : List (String × String)) : List (String × α) :=
  pairs.filterMap fun p => (p.1, ·) <$> m.argumentValue? p.2

theorem foldlM_argument (m : Memory α) (t : Table α) (pairs : List (String × String)) :
    pairs.foldlM (fun t p => (t.insert p.1 ·) <$> m.argument p.2) t =
      match m.firstUnknown? (pairs.map Prod.snd) with
      | some a => .error (.unknownArgument (trimmed a))
      | none => .ok ((m.valuePairs pairs).foldl (fun t p => t.insert p.1 p.2) t) := by
  induction pairs generalizing t with
  | nil => rfl
  | cons p rest ih =>
    obtain ⟨k, a⟩ := p
    rw [List.foldlM_cons, List.map_cons]
    cases ha : m.argumentValue? a with
    | none =>
      rw [firstUnknown?_cons_of_none ha, argument_of_none ha]
      rfl
    | some x =>
      have hpairs : m.valuePairs ((k, a) :: rest) = (k, x) :: m.valuePairs rest := by simp [valuePairs, ha]
      rw [firstUnknown?_cons_of_value ha, argument_of_value ha, hpairs, List.foldl_cons]
      exact ih (t.insert k x)

theorem bindArguments_eq (m : Memory α) (pairs : List (String × String)) :
    m.bindArguments pairs =
      match m.firstUnknown? (pairs.map Prod.snd) with
      | some a => .error (.unknownArgument (trimmed a))
      | none => .ok (Table.ofList (m.valuePairs pairs)) := by
  rw [bindArguments, foldlM_argument, Table.foldl_insert_eq_ofList]

theorem get?_ofList_valuePairs {m : Memory α} {params arguments : List String}
    (h : m.firstUnknown? arguments = none) (name : String) :
    (Table.ofList (m.valuePairs (params.zip arguments))).get? name = m.parameterValue? params arguments name := by
  have hvalues : ∀ p ∈ (params.zip arguments).reverse, (m.argumentValue? p.2).isSome := by
    intro p hp
    exact firstUnknown?_eq_none_iff.mp h p.2 (List.of_mem_zip (List.mem_reverse.mp hp)).2
  rw [Table.get?_ofList, valuePairs, ← List.filterMap_reverse, lookup_filterMap_snd hvalues, parameterValue?]

/-! ## Calls -/

/-- The value of the body in which the arguments, one for each parameter, stand in the places of the parameters. Other
names are left to the variables. -/
def substitutedBody (m : Memory α) (f : Formula α) (arguments : List String) : Except Fault α :=
  match m.firstUnknown? arguments with
  | some a => .error (.unknownArgument (trimmed a))
  | none =>
    (DeskCalc.evaluate (.ofShared m.values)
      (f.body.map (Token.substitute (m.parameterValue? f.params arguments)))).outcome

def substitutedCall (m : Memory α) (name : String) (arguments : List String) : Except Fault α :=
  match m.functions.get? name with
  | none => .error (.undefinedFunction name)
  | some f =>
    if f.params.length < arguments.length then
      .error (.tooManyArguments name f.params.length arguments.length)
    else if arguments.length < f.params.length then
      .error (.tooFewArguments name f.params.length arguments.length)
    else m.substitutedBody f arguments

/-- Parameters may be named like variables and hide them: a name is substituted before it is looked up. -/
theorem outcome_evaluate_bound {m : Memory α} {f : Formula α} {arguments : List String}
    (h : arguments.length = f.params.length) (name : String) :
    (do
      let own ← Traced.ofExcept (m.bindArguments (f.params.zip arguments))
      Traced.emit (.calling name own)
      DeskCalc.evaluate ⟨own, m.values⟩ f.body : Traced α α).outcome = m.substitutedBody f arguments := by
  have harguments : (f.params.zip arguments).map Prod.snd = arguments := List.map_snd_zip (Nat.le_of_eq h)
  rw [bindArguments_eq, harguments, substitutedBody]
  cases hunknown : m.firstUnknown? arguments with
  | some a => rfl
  | none =>
    have hscope : ∀ n, Scope.find? ⟨Table.ofList (m.valuePairs (f.params.zip arguments)), m.values⟩ n =
        (m.parameterValue? f.params arguments n).or ((Scope.ofShared m.values).find? n) := by
      intro n
      rw [Scope.find?, get?_ofList_valuePairs hunknown, Scope.find?_ofShared]
    dsimp only
    rw [evaluate_substitute hscope]
    rfl

/-- Whatever is stored under the name, also with repeated parameters. -/
theorem call_eq_substitutedCall (m : Memory α) (name : String) (arguments : List String) :
    (m.call name arguments).outcome = m.substitutedCall name arguments := by
  unfold call substitutedCall Formula.arity
  cases m.functions.get? name with
  | none => rfl
  | some f =>
    dsimp only
    by_cases hmany : f.params.length < arguments.length
    · rw [if_pos hmany, if_pos hmany]
      rfl
    · by_cases hfew : arguments.length < f.params.length
      · rw [if_neg hmany, if_neg hmany, if_pos hfew, if_pos hfew]
        rfl
      · have hlength : arguments.length = f.params.length := by omega
        rw [if_neg hmany, if_neg hmany, if_neg hfew, if_neg hfew]
        exact outcome_evaluate_bound hlength name

example : (((∅ : Memory Float).define ⟨"f", ["x", "x"], Token.ofText "x * 10"⟩).call "f" ["1", "-2"]).outcome =
    (evaluateText "0 - 20").outcome := by
  decide +kernel

end Memory

end DeskCalc
