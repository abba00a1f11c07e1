import DeskCalc.Proofs.Memory.Calls
import DeskCalc.Proofs.Memory.Usable
import DeskCalc.Proofs.Memory.WellFormed

/-! # Variables in the places of numbers

An argument of a call is looked up among the variables before it is read as a number. No variable has a name that says
a number in digits: only the words for infinity and for no number can be names, too.

* `Numeral.isWord_of_read?`: a name that is read as a number is one of the words.
* `ReadsNumerals`: numbers are read from nothing else. `readsNumerals_double`, `readsNumerals_single`: in both types.
* `Memory.argumentValue?_of_noName`: an argument that does not begin like a name is read as a number, whatever the
  variables are.
* `Memory.Takes`, `Memory.Misses`: what a call makes of an argument.
* `Memory.ShadowsWords`: what holds of a number type then. `Memory.shadowsWords` for the two that there are.
-/

namespace DeskCalc
open DeskCalc.Number DeskCalc.Text
set_option autoImplicit false

/-! ## Names that are numbers -/

namespace Number

/-- In any case of its letters. -/
def IsWord (cs : List Char) : Prop := String.ofList (cs.map Char.toLower) ∈ ["inf", "infinity", "nan"]

namespace Numeral

theorem isWord_of_word? {negative : Bool} {cs : List Char} {n : Numeral} (h : word? negative cs = some n) :
    IsWord cs := by
  have hwords : cs.map Char.toLower = "inf".toList ∨ cs.map Char.toLower = "infinity".toList ∨
      cs.map Char.toLower = "nan".toList := by
    rw [word?] at h
    split at h
    · next hinfinity => exact hinfinity.imp_right .inl
    · split at h
      · next hnan => exact .inr (.inr hnan)
      · cases h
  rw [IsWord]
  rcases hwords with hword | hword | hword <;> rw [hword] <;> decide

/-- Digits or a point stand in front, if not a sign. -/
theorem decimal?_of_startsName {c : Char} (h : Command.startsName c = true) (negative : Bool) (rest : List Char) :
    decimal? negative (c :: rest) = none := by
  obtain ⟨hpoint, hdigit⟩ := Command.isDigit_of_startsName h
  have htake : (c :: rest).takeWhile Char.isDigit = [] := List.takeWhile_cons_of_neg (by simp [hdigit])
  have hdrop : (c :: rest).dropWhile Char.isDigit = c :: rest := List.dropWhile_cons_of_neg (by simp [hdigit])
  have hfraction : fraction (c :: rest) = ([], c :: rest) := by
    unfold fraction
    split
    · next heq =>
      injection heq with hc _
      exact absurd hc hpoint
    · rfl
  simp [decimal?, htake, hdrop, hfraction]

theorem isWord_of_read? {cs : List Char} (hname : Command.Identifier cs) {n : Numeral} (h : read? cs = some n) :
    IsWord cs := by
  obtain ⟨c, rest, rfl, hstart, _⟩ := hname
  have hdecimal := decimal?_of_startsName (Command.startsName_iff.mpr hstart) false rest
  have hread : read? (c :: rest) = unsigned? false (c :: rest) := by
    unfold read?
    split
    · next heq =>
      cases heq
      exact absurd hstart (by decide)
    · next heq =>
      cases heq
      exact absurd hstart (by decide)
    · rfl
  rw [hread, unsigned?, hdecimal, Option.none_or] at h
  exact isWord_of_word? h

end Numeral

/-- Numbers of this type are read from the texts of numbers and from no others. -/
def ReadsNumerals (α : Type) [Scalar α] : Prop :=
  ∀ cs (x : α), Scalar.read? cs = some x → ∃ n, Numeral.read? cs = some n

/-- A type that reads the words of a format reads numerals only. -/
theorem ReadsNumerals.of_words {α : Type} [Scalar α] {f : Format} {ofWord : Nat → α}
    (hread : ∀ cs, (Scalar.read? cs : Option α) = (f.read? cs).map ofWord) : ReadsNumerals α := by
  intro cs x h
  rw [hread] at h
  obtain ⟨_, hword, _⟩ := Option.map_eq_some_iff.mp h
  obtain ⟨n, hn, _⟩ := Option.map_eq_some_iff.mp hword
  exact ⟨n, hn⟩

theorem readsNumerals_double : ReadsNumerals Float :=
  .of_words fun _ => rfl

theorem readsNumerals_single : ReadsNumerals Float32 :=
  .of_words fun _ => rfl

end Number

/-! ## Arguments -/

namespace Memory

variable {α : Type} [Scalar α]

/-- Left by some lines, if nothing was there before them. -/
def Reached (m : Memory α) : Prop := ∃ lines, m = (∅ : Memory α).afterLines lines

theorem Reached.freeName {m : Memory α} (hm : m.Reached) {name : String} {x : α} (hx : m.values.get? name = some x) :
    Command.FreeName name := by
  obtain ⟨lines, rfl⟩ := hm
  exact freeName_of_value hx

theorem Reached.wellFormed {kind : α → Prop} (hread : ReadsLiterals α kind) {m : Memory α} (hm : m.Reached) :
    m.WellFormed kind := by
  obtain ⟨lines, rfl⟩ := hm
  exact .of_lines hread lines

theorem isWord_of_value (hread : ReadsNumerals α) {m : Memory α} (hm : m.Reached) {name : String} {x y : α}
    (hx : m.values.get? name = some x) (hy : Scalar.read? name.toList = some y) : IsWord name.toList := by
  obtain ⟨n, hn⟩ := hread _ _ hy
  exact Numeral.isWord_of_read? (hm.freeName hx).1 hn

/-- The text does not begin like a name. -/
def NoName (text : String) : Prop := ∀ c ∈ text.toList.head?, c.isAlpha = false ∧ c ≠ '_'

theorem argumentValue?_of_noName {m : Memory α} (hm : m.Reached) {a : String} (h : NoName (trimmed a)) :
    m.argumentValue? a = Scalar.read? (trimmed a).toList := by
  have hnone : m.values.get? (trimmed a) = none := by
    rw [Option.eq_none_iff_forall_ne_some]
    intro x hx
    obtain ⟨c, rest, hname, hstart, _⟩ := (hm.freeName hx).1
    obtain ⟨hletter, hunderscore⟩ := h c (by rw [hname]; rfl)
    rcases hstart with hstart | hstart
    · rw [hletter] at hstart
      cases hstart
    · exact hunderscore hstart
  rw [argumentValue?, hnone, Option.none_or]

/-! ## Calls -/

/-- A call takes this value for the parameter. -/
structure Takes (m : Memory α) (f : Formula α) (arguments : List String) (param a : String) (x : α) : Prop where
  argument : m.argument a = .ok x
  bound : ∀ own, m.bindArguments (f.params.zip arguments) = .ok own → own.get? param = some x

/-- A call does not know the argument, and says so if it knows those before it. -/
structure Misses (m : Memory α) (name : String) (arguments : List String) (i : Nat) (a : String) : Prop where
  argument : m.argument a = .error (.unknownArgument (trimmed a))
  reported : (∀ b ∈ arguments.take i, ∃ y, m.argument b = .ok y) →
    (m.call name arguments).outcome = .error (.unknownArgument (trimmed a))

theorem parameterValue?_eq {m : Memory α} {params arguments : List String} (hparams : params.Nodup)
    (hlength : arguments.length = params.length) {i : Nat} {param a : String} (hparam : params[i]? = some param)
    (ha : arguments[i]? = some a) : m.parameterValue? params arguments param = m.argumentValue? a := by
  have hnames : ((params.zip arguments).reverse.map Prod.fst).Nodup := by
    rw [List.map_reverse, List.nodup_reverse, List.map_fst_zip (Nat.le_of_eq hlength.symm)]
    exact hparams
  have hmem : (param, a) ∈ (params.zip arguments).reverse := by
    rw [List.mem_reverse]
    exact List.mem_of_getElem? (List.getElem?_zip_eq_some.mpr ⟨hparam, ha⟩)
  rw [parameterValue?, (lookup_eq_some_iff_mem hnames).mpr hmem]
  rfl

theorem takes_of_value {m : Memory α} {f : Formula α} {arguments : List String} (hparams : f.params.Nodup)
    (hlength : arguments.length = f.params.length) {i : Nat} {param a : String} (hparam : f.params[i]? = some param)
    (ha : arguments[i]? = some a) {x : α} (h : m.argumentValue? a = some x) : Takes m f arguments param a x where
  argument := argument_of_value h
  bound own hown := by
    rw [bindArguments_eq, List.map_snd_zip (Nat.le_of_eq hlength)] at hown
    cases hunknown : m.firstUnknown? arguments with
    | some b =>
      rw [hunknown] at hown
      cases hown
    | none =>
      rw [hunknown] at hown
      cases hown
      rw [get?_ofList_valuePairs hunknown, parameterValue?_eq hparams hlength hparam ha, h]

theorem known_of_argument {m : Memory α} {a : String} {x : α} (h : m.argument a = .ok x) :
    (m.argumentValue? a).isSome := by
  cases hvalue : m.argumentValue? a with
  | some y => rfl
  | none =>
    rw [argument_of_none hvalue] at h
    cases h

theorem misses_of_none {m : Memory α} {name : String} {f : Formula α} (hf : m.functions.get? name = some f)
    {arguments : List String} (hlength : arguments.length = f.params.length) {i : Nat} {a : String}
    (ha : arguments[i]? = some a) (h : m.argumentValue? a = none) : Misses m name arguments i a where
  argument := argument_of_none h
  reported hbefore := by
    have hknown : m.firstUnknown? (arguments.take i) = none := by
      rw [firstUnknown?_eq_none_iff]
      intro b hb
      obtain ⟨y, hy⟩ := hbefore b hb
      exact known_of_argument hy
    have hfirst : m.firstUnknown? arguments = some a := by
      obtain ⟨hi, hget⟩ := List.getElem?_eq_some_iff.mp ha
      have hrest : arguments.drop i = a :: arguments.drop (i + 1) := by rw [List.drop_eq_getElem_cons hi, hget]
      rw [firstUnknown?] at hknown ⊢
      rw [← List.take_append_drop i arguments, List.find?_append, hknown, hrest]
      exact firstUnknown?_cons_of_none h _
    rw [call_eq_substitutedCall, substitutedCall, hf]
    simp only [hlength, Nat.lt_irrefl, if_false, substitutedBody, hfirst]

/-! ## Memories that lines leave -/

/-- Of all texts that are read as numbers, none but the words can be hidden by a variable. A call treats the others
alike in any two memories with the same function. -/
structure ShadowsWords (α : Type) [Scalar α] : Prop where
  words : ∀ (m : Memory α), m.Reached → ∀ (a : String) (x y : α), m.values.get? (trimmed a) = some x →
    Scalar.read? (trimmed a).toList = some y → IsWord (trimmed a).toList
  alike : ∀ (m m' : Memory α), m.Reached → m'.Reached → ∀ name f,
    m.functions.get? name = some f → m'.functions.get? name = some f →
      ∀ arguments : List String, arguments.length = f.params.length →
        ∀ i param a, f.params[i]? = some param → arguments[i]? = some a → NoName (trimmed a) →
          (∃ x, Takes m f arguments param a x ∧ Takes m' f arguments param a x) ∨
            (Misses m name arguments i a ∧ Misses m' name arguments i a)

theorem ShadowsWords.of_reads {kind : α → Prop} (hnumerals : ReadsNumerals α) (hread : ReadsLiterals α kind) :
    ShadowsWords α where
  words m hm a x y hx hy := isWord_of_value hnumerals hm hx hy
  alike m m' hm hm' name f hf hf' arguments hlength i param a hparam ha hname := by
    have hparams : f.params.Nodup := ((hm.wellFormed hread).functions name f hf).2.2.distinct
    have hvalue := argumentValue?_of_noName hm hname
    have hvalue' := argumentValue?_of_noName hm' hname
    cases hliteral : (Scalar.read? (trimmed a).toList : Option α) with
    | some x =>
      rw [hliteral] at hvalue hvalue'
      exact .inl ⟨x, takes_of_value hparams hlength hparam ha hvalue, takes_of_value hparams hlength hparam ha hvalue'⟩
    | none =>
      rw [hliteral] at hvalue hvalue'
      exact .inr ⟨misses_of_none hf hlength ha hvalue, misses_of_none hf' hlength ha hvalue'⟩

theorem shadowsWords : ShadowsWords Float ∧ ShadowsWords Float32 :=
  ⟨.of_reads readsNumerals_double readsLiterals_double, .of_reads readsNumerals_single readsLiterals_single⟩

/-- A variable that hides a word. -/
example : let m := (∅ : Memory Float).afterLines ["inf = 3", "def f(x, y) = x / y"]
    (m.enter "f(inf, 1e1)").outcome = .ok (some 0.3, m) := by
  decide +kernel

end Memory

end DeskCalc
