import DeskCalc.Console
import Mathlib.Data.List.Basic

/-! # Lines

The conversation goes byte by byte. Here it goes line by line.

* `Lines`: a byte sequence cut behind its newlines. There is one way to do it: the instances `Nonempty (Lines bytes)`
  and `Subsingleton (Lines bytes)`.
* `Lines.complete`, `Lines.all`, `Lines.delivered`: the lines that end in a newline; with the unfinished one; and those
  that a reader gets to see, which misses an unfinished line if it fails there.
* `Lines.append`: the lines of two inputs are those of the one and those of the other, if the first one ends in a newline.
* `Console.answerLines`: the conversation over a list of lines. `Console.run_eq_answerLines`: it is the one over bytes.
-/

namespace DeskCalc
set_option autoImplicit false
open Console (newline)

/-! ## Cutting -/

/-- A body is a line without its newline; nothing but the tail may lack one. -/
structure Lines (bytes : List UInt8) where
  bodies : List (List UInt8)
  tail : List UInt8
  joined : bytes = (bodies.map (· ++ [newline])).flatten ++ tail
  bodies_open : ∀ body ∈ bodies, newline ∉ body
  tail_open : newline ∉ tail

namespace Lines

variable {bytes : List UInt8}

theorem joined_cons (body tail : List UInt8) (bodies : List (List UInt8)) :
    ((body :: bodies).map (· ++ [newline])).flatten ++ tail =
      body ++ newline :: ((bodies.map (· ++ [newline])).flatten ++ tail) := by
  simp

instance : Nonempty (Lines bytes) := by
  induction bytes with
  | nil => exact ⟨[], [], rfl, by simp, by simp⟩
  | cons b bytes ih =>
    obtain ⟨bodies, tail, rfl, hbodies, htail⟩ := ih
    by_cases hb : b = newline
    · subst hb
      exact ⟨[] :: bodies, tail, (joined_cons [] tail bodies).symm, by simpa using hbodies, htail⟩
    · cases bodies with
      | nil => exact ⟨[], b :: tail, rfl, hbodies, by simp [htail, Ne.symm hb]⟩
      | cons body bodies =>
        refine ⟨(b :: body) :: bodies, tail, by rw [joined_cons, joined_cons]; rfl, ?_, htail⟩
        have hbody : newline ∉ b :: body := by simp [hbodies body (.head _), Ne.symm hb]
        exact List.forall_mem_cons.mpr ⟨hbody, fun x hx => hbodies x (.tail _ hx)⟩

theorem takeWhile_body {body : List UInt8} (h : newline ∉ body) (rest : List UInt8) :
    (body ++ newline :: rest).takeWhile (· != newline) = body := by
  have hbody : ∀ b ∈ body, (b != newline) = true := by
    intro b hb
    rw [bne_iff_ne]
    exact fun he => h (he ▸ hb)
  rw [List.takeWhile_append_of_pos hbody]
  simp

theorem eq_of_append_newline {body body' rest rest' : List UInt8} (hbody : newline ∉ body) (hbody' : newline ∉ body')
    (h : body ++ newline :: rest = body' ++ newline :: rest') : body = body' ∧ rest = rest' := by
  have hbodies : body = body' := by
    rw [← takeWhile_body hbody rest, h, takeWhile_body hbody']
  rw [hbodies] at h
  exact ⟨hbodies, (List.cons_inj_right newline).mp (List.append_cancel_left h)⟩

theorem parts_eq {tail tail' : List UInt8} (htail : newline ∉ tail) (htail' : newline ∉ tail') :
    ∀ {bodies bodies' : List (List UInt8)}, (∀ body ∈ bodies, newline ∉ body) → (∀ body ∈ bodies', newline ∉ body) →
      (bodies.map (· ++ [newline])).flatten ++ tail = (bodies'.map (· ++ [newline])).flatten ++ tail' →
      bodies = bodies' ∧ tail = tail'
  | [], [], _, _, h => ⟨rfl, h⟩
  | [], body' :: bodies', _, _, h => by
    rw [joined_cons] at h
    have hmem : newline ∈ tail := by
      rw [show tail = _ from h]
      simp
    exact absurd hmem htail
  | body :: bodies, [], _, _, h => by
    rw [joined_cons] at h
    have hmem : newline ∈ tail' := by
      rw [show tail' = _ from h.symm]
      simp
    exact absurd hmem htail'
  | body :: bodies, body' :: bodies', hbodies, hbodies', h => by
    rw [joined_cons, joined_cons] at h
    obtain ⟨rfl, hrest⟩ := eq_of_append_newline (hbodies body (.head _)) (hbodies' body' (.head _)) h
    obtain ⟨rfl, rfl⟩ := parts_eq htail htail' (fun x hx => hbodies x (.tail _ hx))
      (fun x hx => hbodies' x (.tail _ hx)) hrest
    exact ⟨rfl, rfl⟩

instance : Subsingleton (Lines bytes) := by
  constructor
  intro ⟨bodies, tail, hjoined, hbodies, htail⟩ ⟨bodies', tail', hjoined', hbodies', htail'⟩
  obtain ⟨rfl, rfl⟩ := parts_eq htail htail' hbodies hbodies' (hjoined.symm.trans hjoined')
  rfl

/-! ## Lines with their ends -/

def complete (lines : Lines bytes) : List (List UInt8) := lines.bodies.map (· ++ [newline])

/-- An empty tail is no line. -/
def all (lines : Lines bytes) : List (List UInt8) :=
  if lines.tail = [] then lines.complete else lines.complete ++ [lines.tail]

def delivered (lines : Lines bytes) (fails : Bool) : List (List UInt8) :=
  if fails then lines.complete else lines.all

theorem delivered_eq (lines : Lines bytes) (fails : Bool) :
    lines.delivered fails = lines.complete ++ if fails ∨ lines.tail = [] then [] else [lines.tail] := by
  cases fails with
  | true => simp [delivered]
  | false => by_cases h : lines.tail = [] <;> simp [delivered, all, h]

/-- The lines of two inputs, of which the first one ends in a newline. -/
def append {more : List UInt8} (lines : Lines bytes) (h : lines.tail = []) (next : Lines more) : Lines (bytes ++ more)
    where
  bodies := lines.bodies ++ next.bodies
  tail := next.tail
  joined := by
    have hjoined := lines.joined
    rw [h, List.append_nil] at hjoined
    rw [List.map_append, List.flatten_append, List.append_assoc, ← next.joined]
    exact congrArg (· ++ more) hjoined
  bodies_open := by
    intro body hbody
    rcases List.mem_append.mp hbody with hbody | hbody
    · exact lines.bodies_open body hbody
    · exact next.bodies_open body hbody
  tail_open := next.tail_open

theorem all_append {more : List UInt8} (lines : Lines bytes) (h : lines.tail = []) (next : Lines more) :
    (lines.append h next).all = lines.all ++ next.all := by
  simp only [all, append, complete, h, List.map_append, if_true, List.append_assoc]
  split <;> rfl

theorem tail_eq_nil (lines : Lines bytes) (h : bytes.getLast? = some newline) : lines.tail = [] := by
  by_contra htail
  rw [lines.joined, List.getLast?_append_of_ne_nil _ htail] at h
  exact lines.tail_open (List.mem_of_getLast? h)

end Lines

namespace Console

variable {α : Type} [DeskCalc.Number.Scalar α]

/-! ## The conversation over lines -/

/-- Behind a prompt, answers one line after the other, with a prompt behind each. -/
def answerLines (fails : Bool) (m : Memory α) (room : Option Nat) : List (List UInt8) → Transcript α
  | [] => if fails then ⟨[], .readFailed, m, []⟩ else farewell m room
  | line :: lines =>
    reply m line room fun m room => say prompt room m fun room => answerLines fails m room lines

theorem converse_line (fails : Bool) (m : Memory α) (room : Option Nat) {body : List UInt8} (hbody : newline ∉ body)
    (line rest : List UInt8) :
    converse fails m room line (body ++ newline :: rest) =
      reply m (line.reverse ++ body ++ [newline]) room
        fun m room => say prompt room m fun room => converse fails m room [] rest := by
  induction body generalizing line with
  | nil => simp [converse]
  | cons b body ih =>
    have hb : b ≠ newline := fun h => hbody (h ▸ .head _)
    rw [List.cons_append, converse, if_neg hb, ih (fun h => hbody (.tail _ h))]
    simp

theorem converse_tail (fails : Bool) (m : Memory α) (room : Option Nat) {tail : List UInt8} (htail : newline ∉ tail)
    (line : List UInt8) : converse fails m room line tail = converse fails m room (tail.reverse ++ line) [] := by
  induction tail generalizing line with
  | nil => rfl
  | cons b tail ih =>
    have hb : b ≠ newline := fun h => htail (h ▸ .head _)
    have hstep : converse fails m room line (b :: tail) = converse fails m room (b :: line) tail := if_neg hb
    rw [hstep, ih (fun h => htail (.tail _ h)), List.reverse_cons, List.append_assoc]
    rfl

/-- At the end of the input, or where it fails. -/
theorem converse_nil (fails : Bool) (m : Memory α) (room : Option Nat) (tail : List UInt8) :
    converse fails m room tail.reverse [] = answerLines fails m room (if fails ∨ tail = [] then [] else [tail]) := by
  cases fails with
  | true => rfl
  | false =>
    cases tail with
    | nil => rfl
    | cons b tail => simp [converse, answerLines]

theorem converse_eq_answerLines {bodies : List (List UInt8)} {tail : List UInt8}
    (hbodies : ∀ body ∈ bodies, newline ∉ body) (htail : newline ∉ tail) (fails : Bool) (m : Memory α)
    (room : Option Nat) :
    converse fails m room [] ((bodies.map (· ++ [newline])).flatten ++ tail) =
      answerLines fails m room (bodies.map (· ++ [newline]) ++ if fails ∨ tail = [] then [] else [tail]) := by
  induction bodies generalizing m room with
  | nil =>
    have htail := converse_tail fails m room htail []
    rw [List.append_nil, converse_nil] at htail
    exact htail
  | cons body bodies ih =>
    have hbody := hbodies body (.head _)
    have hrest : ∀ x ∈ bodies, newline ∉ x := fun x hx => hbodies x (.tail _ hx)
    rw [Lines.joined_cons, converse_line fails m room hbody, List.map_cons, List.cons_append, answerLines]
    simp only [ih hrest, List.reverse_nil, List.nil_append]

theorem run_eq_answerLines (source : Source) (lines : Lines source.bytes) (m : Memory α) (room : Option Nat) :
    run m source room =
      say prompt room m fun room => answerLines source.fails m room (lines.delivered source.fails) := by
  have hconverse (m : Memory α) (room : Option Nat) :=
    converse_eq_answerLines lines.bodies_open lines.tail_open source.fails m room
  rw [← lines.joined] at hconverse
  simp only [run, hconverse, lines.delivered_eq]
  rfl

end Console

end DeskCalc
