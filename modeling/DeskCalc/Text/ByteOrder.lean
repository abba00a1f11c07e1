import DeskCalc.Text.Utf8

/-! # The byte order of strings

* `Precedes`: the bytes of one string come before those of another, byte by byte.

It is a strict linear order: `Precedes.irrefl`, `Precedes.trans`, `Precedes.of_not`.
-/

namespace DeskCalc.Text
set_option autoImplicit false

def Precedes (s t : String) : Prop := Utf8.bytes s < Utf8.bytes t

instance (s t : String) : Decidable (Precedes s t) :=
  inferInstanceAs (Decidable (Utf8.bytes s < Utf8.bytes t))

theorem Utf8.bytes_injective {s t : String} (h : Utf8.bytes s = Utf8.bytes t) : s = t := by
  apply String.toByteArray_inj.mp
  exact ByteArray.ext (Array.toList_inj.mp h)

theorem Precedes.irrefl (s : String) : ¬Precedes s s := List.lt_irrefl _

theorem Precedes.trans {s t u : String} : Precedes s t → Precedes t u → Precedes s u := List.lt_trans

theorem Precedes.of_not {s t : String} (h : ¬Precedes s t) (hne : s ≠ t) : Precedes t s :=
  Decidable.byContradiction fun h' => hne (Utf8.bytes_injective (List.le_antisymm h' h))

end DeskCalc.Text
