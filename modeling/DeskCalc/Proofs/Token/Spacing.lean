import DeskCalc.Proofs.Text.Words
import DeskCalc.Token.Lexer

/-! # Spaces around symbols

Every symbol is set between spaces by a pass of its own, which works on what the passes before it have left. That comes
to the same as one pass for all symbols, whatever order they are taken in: what a pass puts in is no symbol, so that no
later pass touches it. Nothing but blanks is put in or taken away.

* `apart`: a character, between spaces if it is one of some symbols.
* `foldl_setApart`, `foldl_setApart_of_perm`: the passes set all symbols apart, in whatever order they are made.
* `visible_flatMap_apart`: spaces around symbols leave what is visible as it is.
* `spaced_eq`, `spaced_at_once`: all passes in one.
-/

namespace DeskCalc
open DeskCalc.Text
set_option autoImplicit false

/-! ## All symbols at once -/

def apart (symbols : List Char) (c : Char) : List Char := if c ∈ symbols then [' ', c, ' '] else [c]

theorem setApart_apart {s : Char} {done : List Char} (hs : s ∉ done) (hspace : s ≠ ' ') (c : Char) :
    setApart s (apart done c) = apart (done ++ [s]) c := by
  unfold apart
  by_cases hc : c ∈ done
  · have hcs : c ≠ s := fun h => hs (h ▸ hc)
    simp [setApart, hc, hcs, hspace.symm]
  · by_cases hcs : c = s
    · subst hcs
      simp [setApart, hc]
    · simp [setApart, hc, hcs]

theorem foldl_setApart (symbols done cs : List Char) (hnodup : (done ++ symbols).Nodup) (hspace : ' ' ∉ symbols) :
    symbols.foldl (fun text symbol => setApart symbol text) (cs.flatMap (apart done)) =
      cs.flatMap (apart (done ++ symbols)) := by
  induction symbols generalizing done with
  | nil => rw [List.append_nil, List.foldl_nil]
  | cons s symbols ih =>
    have hs : s ∉ done := fun h => (List.nodup_append.mp hnodup).2.2 s h s (.head _) rfl
    have hs' : s ≠ ' ' := fun h => hspace (h ▸ .head _)
    have hstep : setApart s (cs.flatMap (apart done)) = cs.flatMap (apart (done ++ [s])) := by
      rw [setApart, List.flatMap_assoc]
      exact congrArg (cs.flatMap ·) (funext fun c => setApart_apart hs hs' c)
    rw [List.foldl_cons, hstep, ih (done ++ [s]) (by rwa [List.append_assoc]) (fun h => hspace (.tail _ h)),
      List.append_assoc, List.singleton_append]

theorem apart_of_perm {order symbols : List Char} (h : order.Perm symbols) : apart order = apart symbols := by
  funext c
  simp only [apart, h.mem_iff]

/-- The symbols may be taken in any order. -/
theorem foldl_setApart_of_perm {order : List Char} (h : order.Perm symbols) (cs : List Char) :
    order.foldl (fun text symbol => setApart symbol text) cs = cs.flatMap (apart symbols) := by
  have hnodup : order.Nodup := h.nodup_iff.mpr (by decide)
  have hspace : ' ' ∉ order := fun hmem => absurd (h.mem_iff.mp hmem) (by decide)
  have hnone : cs.flatMap (apart []) = cs := List.flatMap_singleton' cs
  have hpasses := foldl_setApart order [] cs hnodup hspace
  rwa [hnone, List.nil_append, apart_of_perm h] at hpasses

theorem spaced_eq (cs : List Char) : spaced cs = trim (cs.flatMap (apart symbols)) := by
  rw [spaced, foldl_setApart_of_perm (.refl symbols)]

/-! ## Visible characters -/

theorem isBlank_symbol {c : Char} (h : c ∈ symbols) : isBlank c = false := by
  simp only [symbols, List.mem_cons, List.not_mem_nil, or_false] at h
  rcases h with rfl | rfl | rfl | rfl | rfl | rfl <;> rfl

theorem visible_apart (c : Char) : visible (apart symbols c) = visible [c] := by
  by_cases hsymbol : c ∈ symbols
  · have hspaces : apart symbols c = [' '] ++ [c] ++ [' '] := if_pos hsymbol
    have hspace : visible [' '] = [] := rfl
    rw [hspaces, visible_append, visible_append, hspace, List.nil_append, List.append_nil]
  · rw [apart, if_neg hsymbol]

theorem visible_flatMap_apart (cs : List Char) : visible (cs.flatMap (apart symbols)) = visible cs := by
  induction cs with
  | nil => rfl
  | cons c cs ih => rw [List.flatMap_cons, visible_append, visible_apart, ih, ← visible_append, List.singleton_append]

/-- The passes put a space on both sides of each symbol of the text and leave all other characters alone; then the text
is trimmed. Its visible characters stay, in order. The passes can be made in any order. -/
theorem spaced_at_once (cs : List Char) :
    spaced cs = trim (cs.flatMap fun c => if c ∈ ['(', ')', '+', '-', '/', '*'] then [' ', c, ' '] else [c]) ∧
      visible (spaced cs) = visible cs ∧
      ∀ order : List Char, order.Perm symbols →
        trim (order.foldl (fun text symbol => setApart symbol text) cs) = spaced cs := by
  have hspaced : spaced cs = trim (cs.flatMap (apart symbols)) := spaced_eq cs
  refine ⟨hspaced, ?_, ?_⟩
  · rw [hspaced, visible_trim, visible_flatMap_apart]
  · intro order horder
    rw [foldl_setApart_of_perm horder, hspaced]

/-- The passes from the last symbol to the first. Behind `)` there is a space of its own and one of `*`. -/
theorem spaced_at_once_reversed :
    symbols.reverse.Perm symbols ∧
      trim (symbols.reverse.foldl (fun text symbol => setApart symbol text) "(a+1)*2".toList) =
        spaced "(a+1)*2".toList ∧
      spaced "(a+1)*2".toList = "( a + 1 )  * 2".toList :=
  ⟨List.reverse_perm symbols, (spaced_at_once _).2.2 _ (List.reverse_perm symbols), by decide +kernel⟩

end DeskCalc
