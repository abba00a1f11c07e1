import DeskCalc.Proofs.Console.Conversation

/-! # Channels that fail

A channel with a limit transmits that many bytes and then fails; without one it never fails.

* `Console.Fits`, `Console.clip`, `Console.left`: the lengths within a limit, what passes it, and what is left of it.
* `Console.Limited`: a transcript is what another one becomes when the output has a limit. `Console.say_limited`,
  `Console.answerLines_limited`: the conversation does.
* `Console.answerLines_memory`: which lines have been answered when the output fails.
* `Console.run_limited`: the conversation when both channels have limits.
-/

namespace DeskCalc.Console
open DeskCalc.Number DeskCalc.Text
set_option autoImplicit false

variable {α : Type}

/-! ## Limits -/

def Fits (limit : Option Nat) (length : Nat) : Prop := ∀ n ∈ limit, length ≤ n

instance (limit : Option Nat) (length : Nat) : Decidable (Fits limit length) :=
  inferInstanceAs (Decidable (∀ n ∈ limit, length ≤ n))

def clip (limit : Option Nat) (bytes : List UInt8) : List UInt8 :=
  match limit with
  | none => bytes
  | some n => bytes.take n

def left (limit : Option Nat) (length : Nat) : Option Nat := limit.map (· - length)

@[simp] theorem fits_none (length : Nat) : Fits none length := fun _ h => nomatch h

@[simp] theorem fits_some {n length : Nat} : Fits (some n) length ↔ length ≤ n := by
  simp [Fits]

@[simp] theorem fits_zero (limit : Option Nat) : Fits limit 0 := fun _ _ => Nat.zero_le _

theorem Fits.mono {limit : Option Nat} {k l : Nat} (h : Fits limit l) (hkl : k ≤ l) : Fits limit k :=
  fun n hn => Nat.le_trans hkl (h n hn)

theorem fits_left_iff {limit : Option Nat} {k l : Nat} (h : Fits limit k) :
    Fits (left limit k) l ↔ Fits limit (k + l) := by
  cases limit with
  | none => simp [left]
  | some n =>
    have hk : k ≤ n := fits_some.mp h
    rw [left, Option.map_some, fits_some, fits_some]
    omega

theorem left_left (limit : Option Nat) (k l : Nat) : left (left limit k) l = left limit (k + l) := by
  cases limit with
  | none => rfl
  | some n => simp [left, Nat.sub_sub]

theorem clip_of_fits {limit : Option Nat} {bytes : List UInt8} (h : Fits limit bytes.length) :
    clip limit bytes = bytes := by
  cases limit with
  | none => rfl
  | some n => exact List.take_of_length_le (fits_some.mp h)

theorem clip_append_of_fits {limit : Option Nat} {bytes : List UInt8} (h : Fits limit bytes.length)
    (more : List UInt8) : clip limit (bytes ++ more) = bytes ++ clip (left limit bytes.length) more := by
  cases limit with
  | none => rfl
  | some n =>
    show (bytes ++ more).take n = bytes ++ more.take (n - bytes.length)
    rw [List.take_append, List.take_of_length_le (fits_some.mp h)]

theorem clip_append_of_not_fits {limit : Option Nat} {bytes : List UInt8} (h : ¬Fits limit bytes.length)
    (more : List UInt8) : clip limit (bytes ++ more) = clip limit bytes := by
  cases limit with
  | none => exact absurd (fits_none _) h
  | some n =>
    have hn : n < bytes.length := Nat.lt_of_not_le fun hle => h (fits_some.mpr hle)
    exact List.take_append_of_le_length (Nat.le_of_lt hn)

/-- A reader with a limit fails where it ends, even if the input ends there too. -/
theorem ofInput_eq (input : List UInt8) (limit : Option Nat) :
    Source.ofInput input limit = ⟨clip limit input, decide (∃ n ∈ limit, n ≤ input.length)⟩ := by
  cases limit with
  | none => simp [Source.ofInput, clip]
  | some n =>
    by_cases h : n ≤ input.length
    · simp [Source.ofInput, clip, h]
    · have htake : input.take n = input := List.take_of_length_le (by omega)
      simp [Source.ofInput, clip, h, htake]

/-! ## Output -/

/-- What a transcript becomes when its output has a limit. -/
structure Limited (limit : Option Nat) (whole t : Transcript α) : Prop where
  output : t.output = clip limit whole.output
  ending : t.ending = if Fits limit whole.output.length then whole.ending else .writeFailed

theorem say_of_fits {limit : Option Nat} {text : String} (h : Fits limit (Utf8.bytes text).length) (m : Memory α)
    (next : Option Nat → Transcript α) :
    let t := next (left limit (Utf8.bytes text).length)
    say text limit m next = { t with output := Utf8.bytes text ++ t.output } := by
  cases limit with
  | none => rfl
  | some n => exact if_neg (Nat.not_lt.mpr (fits_some.mp h))

theorem say_of_not_fits {limit : Option Nat} {text : String} (h : ¬Fits limit (Utf8.bytes text).length)
    (m : Memory α) (next : Option Nat → Transcript α) :
    say text limit m next = ⟨clip limit (Utf8.bytes text), .writeFailed, m, []⟩ := by
  cases limit with
  | none => exact absurd (fits_none _) h
  | some n => exact if_pos (Nat.lt_of_not_le fun hle => h (fits_some.mpr hle))

theorem say_memory (text : String) (limit : Option Nat) (m : Memory α) (next : Option Nat → Transcript α) :
    (say text limit m next).memory =
      if Fits limit (Utf8.bytes text).length then (next (left limit (Utf8.bytes text).length)).memory else m := by
  split
  · next h => rw [say_of_fits h]
  · next h => rw [say_of_not_fits h]

theorem farewell_memory (m : Memory α) (limit : Option Nat) : (farewell m limit).memory = m := by
  rw [farewell, say_memory]
  split <;> rfl

theorem say_limited {next : Option Nat → Transcript α} (h : ∀ limit, Limited limit (next none) (next limit))
    (text : String) (m : Memory α) (limit : Option Nat) :
    Limited limit (say text none m next) (say text limit m next) := by
  have hwhole : (say text none m next).output = Utf8.bytes text ++ (next none).output := rfl
  by_cases hfits : Fits limit (Utf8.bytes text).length
  · obtain ⟨houtput, hending⟩ := h (left limit (Utf8.bytes text).length)
    rw [say_of_fits hfits]
    constructor
    · rw [hwhole, clip_append_of_fits hfits, houtput]
    · rw [hwhole, List.length_append, hending]
      simp only [fits_left_iff hfits]
      rfl
  · rw [say_of_not_fits hfits]
    constructor
    · rw [hwhole, clip_append_of_not_fits hfits]
    · have hlong : ¬Fits limit (Utf8.bytes text ++ (next none).output).length :=
        fun hle => hfits (hle.mono (by simp))
      rw [hwhole, if_neg hlong]

/-- Nothing is put out. -/
theorem limited_of_empty {t : Transcript α} (h : t.output = []) (limit : Option Nat) : Limited limit t t := by
  constructor
  · rw [h, clip_of_fits (fits_zero limit)]
  · have hfits : Fits limit t.output.length := h ▸ fits_zero limit
    rw [if_pos hfits]

variable [Scalar α]

theorem reply_limited {next : Memory α → Option Nat → Transcript α}
    (h : ∀ m limit, Limited limit (next m none) (next m limit)) (m : Memory α) (line : List UInt8)
    (limit : Option Nat) : Limited limit (reply m line none next) (reply m line limit next) := by
  have hsay := say_limited (h (respond m line).memory) (respond m line).text (respond m line).memory limit
  exact ⟨hsay.output, hsay.ending⟩

theorem answerLines_limited (fails : Bool) (lines : List (List UInt8)) (m : Memory α) (limit : Option Nat) :
    Limited limit (answerLines fails m none lines) (answerLines fails m limit lines) := by
  induction lines generalizing m limit with
  | nil =>
    cases fails with
    | true => exact limited_of_empty rfl limit
    | false =>
      show Limited limit (farewell m none) (farewell m limit)
      rw [farewell, farewell]
      apply say_limited
      intro limit
      exact limited_of_empty rfl limit
  | cons line lines ih => exact reply_limited (fun m => say_limited (ih m) prompt m) m line limit

/-! ## Memory -/

/-- A line is answered completely, prompt included, or it is the last one that is heard. -/
theorem answerLines_cons_memory (fails : Bool) (m : Memory α) (limit : Option Nat) (line : List UInt8)
    (lines : List (List UInt8)) :
    (answerLines fails m limit (line :: lines)).memory =
      if Fits limit (spoken m [line]).length then
        (answerLines fails (heard m [line]) (left limit (spoken m [line]).length) lines).memory
      else heard m [line] := by
  have hlength : (spoken m [line]).length = (Utf8.bytes (answer m line)).length + (Utf8.bytes prompt).length := by
    simp only [spoken, List.append_nil, List.length_append, prompt]
    omega
  rw [answerLines, reply, hlength]
  simp only [say_memory, respond_text, respond_memory]
  by_cases htext : Fits limit (Utf8.bytes (answer m line)).length
  · rw [if_pos htext]
    simp only [fits_left_iff htext, left_left]
  · have hlong : ¬Fits limit ((Utf8.bytes (answer m line)).length + (Utf8.bytes prompt).length) :=
      fun h => htext (h.mono (by omega))
    rw [if_neg htext, if_neg hlong]

theorem answerLines_memory (fails : Bool) (lines : List (List UInt8)) (m : Memory α) (limit : Option Nat) :
    ∃ k ≤ lines.length, (answerLines fails m limit lines).memory = heard m (lines.take k) ∧
      ∀ i < lines.length, i < k ↔ Fits limit (spoken m (lines.take i)).length := by
  induction lines generalizing m limit with
  | nil =>
    refine ⟨0, Nat.le_refl 0, ?_, fun i hi => absurd hi (Nat.not_lt_zero i)⟩
    cases fails with
    | true => rfl
    | false => exact farewell_memory m limit
  | cons line lines ih =>
    rw [answerLines_cons_memory]
    have hlength (i : Nat) : (spoken m ((line :: lines).take (i + 1))).length =
        (spoken m [line]).length + (spoken (heard m [line]) (lines.take i)).length := by
      rw [← List.length_append, ← spoken_append]
      rfl
    split
    · next hfits =>
      obtain ⟨k, hk, hmemory, hheeded⟩ := ih (heard m [line]) (left limit (spoken m [line]).length)
      refine ⟨k + 1, Nat.succ_le_succ hk, by rw [hmemory, List.take_succ_cons, ← heard_cons], fun i hi => ?_⟩
      cases i with
      | zero => simp [spoken]
      | succ i => rw [hlength, ← fits_left_iff hfits, ← hheeded i (Nat.lt_of_succ_lt_succ hi), Nat.succ_lt_succ_iff]
    · next hlong =>
      refine ⟨1, by simp, rfl, fun i hi => ?_⟩
      cases i with
      | zero => simp [spoken]
      | succ i =>
        rw [hlength]
        exact ⟨fun h => by omega, fun h => absurd (h.mono (by omega)) hlong⟩

/-! ## Both channels -/

/-- The output stops at its limit, and a failure to write is told before one to read. The lines that are heard are the
delivered ones whose prompt has been put out. -/
theorem run_limited (m : Memory α) (input : List UInt8) (readLimit writeLimit : Option Nat)
    (lines : Lines (clip readLimit input)) :
    let fails := decide (∃ r ∈ readLimit, r ≤ input.length)
    let delivered := lines.delivered fails
    let whole := run m (Source.ofInput input readLimit) none
    let t := run m (Source.ofInput input readLimit) writeLimit
    whole.output = spoken m delivered ++ (Utf8.bytes "> " ++ if fails then [] else Utf8.bytes "\n") ∧
      t.output = clip writeLimit whole.output ∧
      t.ending =
        (if Fits writeLimit whole.output.length then if fails then .readFailed else .finished else .writeFailed) ∧
      ∃ k ≤ delivered.length, t.memory = heard m (delivered.take k) ∧
        ∀ i < delivered.length, i < k ↔ Fits writeLimit (spoken m (delivered.take i) ++ Utf8.bytes "> ").length := by
  rw [ofInput_eq]
  generalize decide (∃ r ∈ readLimit, r ≤ input.length) = fails
  obtain ⟨houtput, hending, -⟩ := run_unlimited ⟨clip readLimit input, fails⟩ lines m
  have hrun (room : Option Nat) : run m ⟨clip readLimit input, fails⟩ room =
      say prompt room m fun room => answerLines fails m room (lines.delivered fails) :=
    run_eq_answerLines ⟨clip readLimit input, fails⟩ lines m room
  have hlimited : Limited writeLimit (run m ⟨clip readLimit input, fails⟩ none)
      (run m ⟨clip readLimit input, fails⟩ writeLimit) := by
    rw [hrun, hrun]
    apply say_limited
    intro limit
    exact answerLines_limited fails (lines.delivered fails) m limit
  refine ⟨houtput, hlimited.output, by rw [hlimited.ending, hending], ?_⟩
  rw [hrun, say_memory]
  simp only [List.length_append]
  split
  · next hfits =>
    obtain ⟨k, hk, hmemory, hheeded⟩ := answerLines_memory fails (lines.delivered fails) m
      (left writeLimit (Utf8.bytes prompt).length)
    refine ⟨k, hk, hmemory, fun i hi => ?_⟩
    rw [hheeded i hi, fits_left_iff hfits, Nat.add_comm]
    rfl
  · next hlong =>
    refine ⟨0, Nat.zero_le _, rfl, fun i hi => ⟨fun h => absurd h (Nat.not_lt_zero i), fun h => ?_⟩⟩
    exact absurd (h.mono (Nat.le_add_left _ _)) hlong

/-- A line that is delivered but not ended is not heard. -/
example : (run (∅ : Memory Float) (Source.ofInput (Utf8.bytes "x = 3") (some 5)) none).memory = ∅ := by
  decide +kernel

end DeskCalc.Console
