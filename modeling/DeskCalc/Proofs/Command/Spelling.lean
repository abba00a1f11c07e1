import DeskCalc.Proofs.Command.WellFormed

/-! # Spelled lines

A line that is put together from a name and other parts is read as the command that it spells, whatever the parts look
like by themselves.

* `Text.itemList_intercalate`: the items of a list that has been put together from them.
* `Command.BeginsWith`: the name that a line begins with. There is only one.
* `Command.not_keywordLine_of_freeName`, `Command.CallLine.not_hasAssignment`: no other shape comes before the one that
  is spelled.
* `Command.read_name`, `Command.read_assignment`, `Command.read_definition`, `Command.read_call`: the lines of each
  shape.
-/

namespace DeskCalc
open DeskCalc.Number DeskCalc.Text
set_option autoImplicit false

/-! ## Lists -/

theorem forall_mem_intercalate {β : Type} {P : β → Prop} {separator : List β} {xs : List (List β)}
    (hseparator : ∀ b ∈ separator, P b) (hxs : ∀ x ∈ xs, ∀ b ∈ x, P b) : ∀ b ∈ separator.intercalate xs, P b := by
  induction xs with
  | nil => exact fun _ h => nomatch h
  | cons x xs ih =>
    rw [List.forall_mem_cons] at hxs
    cases xs with
    | nil =>
      rw [List.intercalate_singleton]
      exact hxs.1
    | cons y xs =>
      rw [List.intercalate_cons_cons, List.append_assoc, List.forall_mem_append, List.forall_mem_append]
      exact ⟨hxs.1, hseparator, ih hxs.2⟩

namespace Text

/-- A text without blanks has none at its ends. -/
theorem trim_of_no_blank {cs : List Char} (h : ∀ c ∈ cs, isBlank c = false) : trim cs = cs := by
  have hreverse : ∀ c ∈ cs.reverse, isBlank c = false := fun c hc => h c (List.mem_reverse.mp hc)
  apply trim_eq_iff.mpr
  refine ⟨⟨[], [], rfl, rfl, by simp⟩, ?_, ?_⟩
  · simpa using stops_append h (stops_nil _)
  · simpa using stops_append hreverse (stops_nil _)

/-- What is trimmed begins with no blank. -/
theorem exists_mem_of_trim_eq {cs : List Char} (h : trim cs = cs) (hne : cs ≠ []) : ∃ c ∈ cs, isBlank c = false := by
  cases cs with
  | nil => exact absurd rfl hne
  | cons c cs => exact ⟨c, .head _, (trim_eq_iff.mp h).front c rfl⟩

/-- It can stand between commas, where it is found again. -/
def Item (p : List Char) : Prop := trim p = p ∧ ',' ∉ p

theorem Item.comma_not_mem_append {before p : List Char} (hp : Item p) (hbefore : allBlank before = true) :
    ',' ∉ before ++ p := by
  intro h
  rcases List.mem_append.mp h with h | h
  · cases allBlank_iff.mp hbefore ',' h
  · exact hp.2 h

theorem Item.trimmed_append {before p : List Char} (hp : Item p) (hbefore : allBlank before = true) :
    Trimmed (before ++ p) p := by
  rw [← trim_eq_iff, trim_append hbefore, hp.1]

/-- Every item but the first stands behind the space of the comma before it. -/
theorem commaSeparated_intercalate {before item : List Char} {items : List (List Char)}
    (hbefore : allBlank before = true) (hitems : ∀ p ∈ item :: items, Item p) :
    CommaSeparated (before ++ ", ".toList.intercalate (item :: items)) (item :: items) := by
  induction items generalizing before item with
  | nil =>
    have hitem := hitems item (.head _)
    rw [List.intercalate_singleton]
    exact .last (hitem.comma_not_mem_append hbefore) (hitem.trimmed_append hbefore)
  | cons next items ih =>
    have hitem := hitems item (.head _)
    have hcut : before ++ ", ".toList.intercalate (item :: next :: items) =
        (before ++ item) ++ ',' :: ([' '] ++ ", ".toList.intercalate (next :: items)) := by
      simp [List.intercalate_cons_cons]
    rw [hcut]
    exact .more (hitem.comma_not_mem_append hbefore) (hitem.trimmed_append hbefore)
      (ih rfl fun p hp => hitems p (.tail _ hp))

theorem itemList_intercalate {items : List (List Char)} (hne : [] ∉ items) (hitems : ∀ p ∈ items, Item p) :
    ItemList (", ".toList.intercalate items) items := by
  cases items with
  | nil => rfl
  | cons item items =>
    obtain ⟨c, hc, hvisible⟩ := exists_mem_of_trim_eq (hitems item (.head _)).1 fun h => hne (h ▸ .head _)
    have hmem : c ∈ ", ".toList.intercalate (item :: items) := by
      cases items with
      | nil => simpa using hc
      | cons next items => simp [List.intercalate_cons_cons, hc]
    have hblank := Command.not_allBlank_of_mem hmem hvisible
    have hnone : allBlank [] = true := rfl
    rw [ItemList, if_neg (by rw [hblank]; exact Bool.false_ne_true)]
    exact commaSeparated_intercalate hnone hitems

end Text

namespace Command

/-! ## Names -/

theorem continuesName_of_identifier {name : List Char} (h : Identifier name) : ∀ c ∈ name, continuesName c = true := by
  cases name with
  | nil => exact absurd h not_identifier_nil
  | cons c cs =>
    obtain ⟨hstart, hrest⟩ := identifier_cons_iff.mp h
    exact List.forall_mem_cons.mpr ⟨continuesName_of_startsName hstart, hrest⟩

instance (cs : List Char) : Decidable (Identifier cs) := decidable_of_iff _ isName_iff

instance : DecidablePred FreeName := fun _ => inferInstanceAs (Decidable (_ ∧ _))

theorem isWordChar_of_continuesName {c : Char} (h : continuesName c = true) : isWordChar c = true := by
  have hranges : ∀ r ∈ [(0x30, 0x39), (0x41, 0x5A), (0x5F, 0x5F), (0x61, 0x7A)], r ∈ wordRanges := by decide +kernel
  rw [isWordChar, Ranges.has_iff]
  rcases toNat_of_continuesName h with h | h | h | h
  · exact ⟨(0x30, 0x39), hranges _ (by simp), h⟩
  · exact ⟨(0x41, 0x5A), hranges _ (by simp), h⟩
  · exact ⟨(0x5F, 0x5F), hranges _ (by simp), by omega⟩
  · exact ⟨(0x61, 0x7A), hranges _ (by simp), h⟩

/-- Behind blanks the line begins with this name, and goes on with the rest. -/
def BeginsWith (line : List Char) (name : String) (rest : List Char) : Prop :=
  (∃ blanks, allBlank blanks = true ∧ line = blanks ++ (name.toList ++ rest)) ∧ Identifier name.toList ∧
    Stops continuesName rest

theorem BeginsWith.unique {line rest rest' : List Char} {name name' : String} (h : BeginsWith line name rest)
    (h' : BeginsWith line name' rest') : name = name' ∧ rest = rest' := by
  rw [BeginsWith, ← name?_skipBlanks_iff] at h h'
  simpa using h.symm.trans h'

theorem KeywordLine.beginsWith {line : List Char} (h : KeywordLine line) : ∃ rest, BeginsWith line keyword rest := by
  obtain ⟨blanks, rest, hblanks, hline, hstop⟩ := h
  refine ⟨rest, ⟨blanks, hblanks, hline⟩, by decide, fun c hc => ?_⟩
  rw [Bool.eq_false_iff]
  intro hname
  have hword := hstop c hc
  rw [isWordChar_of_continuesName hname] at hword
  cases hword

/-- A line that begins with another name than the keyword is no definition. -/
theorem not_keywordLine_of_freeName {name : String} (hname : FreeName name) {rest : List Char}
    (hrest : Stops continuesName rest) : ¬KeywordLine (name.toList ++ rest) := by
  intro h
  obtain ⟨behind, hkeyword⟩ := h.beginsWith
  have hbegins : BeginsWith (name.toList ++ rest) name rest := ⟨⟨[], rfl, List.nil_append _⟩, hname.1, hrest⟩
  exact hname.2 (hbegins.unique hkeyword).1

/-- Behind the name comes a parenthesis, and no equals sign. -/
theorem CallLine.not_hasAssignment {line list : List Char} {name : String} (h : CallLine line name list) :
    ¬HasAssignment line := by
  intro hassignment
  obtain ⟨name', expression, h'⟩ := hassignment
  obtain ⟨front, inner, behind, hfront, hinner, _, hline⟩ := h.spelled
  obtain ⟨front', inner', hfront', hinner', hline'⟩ := h'.spelled
  have hcall : BeginsWith line name (inner ++ '(' :: (list ++ ')' :: behind)) :=
    ⟨⟨front, hfront, hline⟩, h.identifier, stops_continuesName hinner rfl _⟩
  have hassign : BeginsWith line name' (inner' ++ '=' :: expression) :=
    ⟨⟨front', hfront', hline'⟩, h'.identifier, stops_continuesName hinner' rfl _⟩
  have hskip : skipBlanks (inner ++ '(' :: (list ++ ')' :: behind)) = '(' :: (list ++ ')' :: behind) :=
    skipBlanks_eq_iff.mpr ⟨inner, rfl, hinner, stops_cons rfl _⟩
  have hskip' : skipBlanks (inner' ++ '=' :: expression) = '=' :: expression :=
    skipBlanks_eq_iff.mpr ⟨inner', rfl, hinner', stops_cons rfl _⟩
  rw [(hcall.unique hassign).2, hskip'] at hskip
  cases hskip

/-! ## Lines -/

variable {α : Type} [Scalar α]

/-- The first character of a name is in no numeral. -/
theorem isDigit_of_startsName {c : Char} (h : startsName c = true) : c ≠ '.' ∧ c.isDigit = false := by
  rw [startsName_iff] at h
  rcases h with h | rfl
  · have hletter : (65 ≤ c.toNat ∧ c.toNat ≤ 90) ∨ (97 ≤ c.toNat ∧ c.toNat ≤ 122) := by
      simpa [Char.isAlpha, Char.isUpper, Char.isLower, UInt32.le_iff_toNat_le] using h
    constructor
    · rintro rfl
      revert hletter
      decide
    · rw [Bool.eq_false_iff]
      intro hdigit
      have hdigit' : 48 ≤ c.toNat ∧ c.toNat ≤ 57 := by
        simpa [Char.isDigit, UInt32.le_iff_toNat_le] using hdigit
      omega
  · decide

theorem cuts_of_continuesName {c : Char} (h : continuesName c = true) : cuts c = false := by
  refine cuts_eq_false_iff.mpr ⟨isBlank_of_continuesName h, fun hsymbol => ?_⟩
  simp only [symbols, List.mem_cons, List.not_mem_nil, or_false] at hsymbol
  rcases hsymbol with rfl | rfl | rfl | rfl | rfl | rfl <;> cases h

theorem ofText_identifier {name : String} (h : Identifier name.toList) :
    (Token.ofText name : List (Token α)) = [.name name] := by
  have hne : name.toList ≠ [] := fun hnil => not_identifier_nil (hnil ▸ h)
  have hcuts : ∀ c ∈ name.toList, cuts c = false := fun c hc => cuts_of_continuesName (continuesName_of_identifier h c hc)
  have hnumeral : isNumeral name.toList = false := by
    obtain ⟨c, rest, hname, hstart, _⟩ := h
    have hc := isDigit_of_startsName (startsName_iff.mpr hstart)
    rw [Bool.eq_false_iff]
    intro hall
    have hmem : c ∈ name.toList := hname ▸ .head _
    rcases Token.mem_of_isNumeral hall hmem with hpoint | hdigit
    · exact hc.1 hpoint
    · rw [hc.2] at hdigit
      cases hdigit
  rw [Token.ofText, Token.ofChars_run hcuts hne, Token.ofWord_run hcuts hnumeral, String.ofList_toList]

theorem not_mem_identifier {name : List Char} (h : Identifier name) {c : Char} (hc : continuesName c = false) :
    c ∉ name := by
  intro hmem
  rw [continuesName_of_identifier h c hmem] at hc
  cases hc

theorem item_of_identifier {name : List Char} (h : Identifier name) : Item name :=
  ⟨trim_of_no_blank fun c hc => isBlank_of_continuesName (continuesName_of_identifier h c hc), not_mem_identifier h rfl⟩

theorem not_hasAssignment_of_not_mem {line : List Char} (h : '=' ∉ line) : ¬HasAssignment line := by
  rintro ⟨name, expression, hline⟩
  obtain ⟨front, inner, _, _, rfl⟩ := hline.spelled
  simp at h

theorem not_hasCall_of_not_mem {line : List Char} (h : '(' ∉ line) : ¬HasCall line := by
  rintro ⟨name, list, hline⟩
  obtain ⟨front, inner, behind, _, _, _, rfl⟩ := hline.spelled
  simp at h

theorem read_name {name : String} (hname : FreeName name) :
    (read name : Except Fault (Option (Command α))) = .ok (some (.display [.name name])) := by
  have hequals : '=' ∉ name.toList := not_mem_identifier hname.1 rfl
  have hparenthesis : '(' ∉ name.toList := not_mem_identifier hname.1 rfl
  have hkeyword : ¬KeywordLine name.toList := by
    have h := not_keywordLine_of_freeName hname (stops_nil _)
    rwa [List.append_nil] at h
  have hblank : allBlank name.toList = false := by
    rw [Bool.eq_false_iff, Ne, ← Token.ofChars_eq_nil_iff (α := α), ← Token.ofText, ofText_identifier hname.1]
    exact List.cons_ne_nil _ _
  rw [read_eq_some_iff, readChars_of_expression hkeyword (not_hasAssignment_of_not_mem hequals)
    (not_hasCall_of_not_mem hparenthesis)]
  refine ⟨hblank, ?_⟩
  rw [readExpression, if_neg hequals, ← Token.ofText, ofText_identifier hname.1]
  rfl

theorem assignmentLine_spelled {name text : String} (hname : FreeName name) (htext : '\n' ∉ text.toList) :
    AssignmentLine (name ++ " = " ++ text).toList name (' ' :: text.toList) where
  identifier := hname.1
  expression_free := by simpa using htext
  spelled := ⟨[], [' '], rfl, rfl, by simp⟩

theorem ofChars_cons_space (cs : List Char) : (Token.ofChars (' ' :: cs) : List (Token α)) = Token.ofChars cs := by
  have hspace : allBlank [' '] = true := rfl
  exact Token.ofChars_blanks_append hspace cs

/-- The blanks in front are no part of an expression. -/
theorem readExpression_blanks_append {front : List Char} (h : allBlank front = true) (cs : List Char) :
    (readExpression (front ++ cs) : Except Fault (List (Token α))) = readExpression cs := by
  have hequals : '=' ∉ front := not_mem_of_allBlank h rfl
  have hmem : '=' ∈ front ++ cs ↔ '=' ∈ cs := by simp [hequals]
  simp only [readExpression, hmem, trim_append h, Token.ofChars_blanks_append h]

theorem readExpression_cons_space (cs : List Char) :
    (readExpression (' ' :: cs) : Except Fault (List (Token α))) = readExpression cs := by
  have hspace : allBlank [' '] = true := rfl
  exact readExpression_blanks_append hspace cs

theorem readAssignment_of_not_blank (name : String) {cs : List Char} (h : allBlank cs = false) :
    (readAssignment name cs : Except Fault (Command α)) = .assign name <$> readExpression cs := by
  rw [readAssignment]
  cases hts : (readExpression cs : Except Fault (List (Token α))) with
  | error e => rfl
  | ok ts =>
    have hempty : ¬ts.isEmpty = true := by
      rw [← (readExpression_eq_ok_iff.mp hts).2, isEmpty_ofChars_iff, h]
      exact Bool.false_ne_true
    exact if_neg hempty

/-- An assignment is read as far as its expression is. -/
theorem read_assignment {name text : String} (hname : FreeName name) (htext : '\n' ∉ text.toList)
    (hblank : allBlank text.toList = false) :
    (read (name ++ " = " ++ text) : Except Fault (Option (Command α))) =
      (fun tokens => some (.assign name tokens)) <$> readExpression text.toList := by
  have hline := assignmentLine_spelled hname htext
  have hkeyword : ¬KeywordLine (name ++ " = " ++ text).toList := by
    have hspace : continuesName ' ' = false := rfl
    simpa using not_keywordLine_of_freeName hname (stops_cons hspace ('=' :: ' ' :: text.toList))
  have hblank' : allBlank (' ' :: text.toList) = false := hblank
  rw [read, hline.not_allBlank, readChars_of_assignmentLine hkeyword hline, readAssignment_of_not_blank name hblank',
    readExpression_cons_space]
  cases (readExpression text.toList : Except Fault (List (Token α))) with
  | error e => rfl
  | ok ts => rfl

theorem ParameterList.itemList {ps : List (List Char)} (h : ParameterList ps) :
    ItemList (", ".toList.intercalate ps) ps :=
  itemList_intercalate (fun hnil => not_identifier_nil (h.1 [] hnil).1) fun p hp => item_of_identifier (h.1 p hp).1

theorem isParenthesis_of_continuesName {c : Char} (h : continuesName c = true) : isParenthesis c = false := by
  rw [isParenthesis, Bool.or_eq_false_iff, beq_eq_false_iff_ne, beq_eq_false_iff_ne]
  constructor <;> (rintro rfl; cases h)

theorem free_intercalate {ps : List (List Char)} (h : ∀ p ∈ ps, ∀ c ∈ p, isParenthesis c = false) :
    ∀ c ∈ ", ".toList.intercalate ps, isParenthesis c = false := by
  apply forall_mem_intercalate
  · simp [isParenthesis]
  · exact h

theorem ParameterList.free {ps : List (List Char)} (h : ParameterList ps) :
    ∀ c ∈ ", ".toList.intercalate ps, isParenthesis c = false :=
  free_intercalate fun p hp c hc =>
    isParenthesis_of_continuesName (continuesName_of_identifier (h.1 p hp).1 c hc)

theorem DefinitionLine.keywordLine {line params body : List Char} {name : String}
    (h : DefinitionLine line name params body) : KeywordLine line := by
  obtain ⟨front, gap, inner, behind, hfront, hgap, hne, _, _, hline⟩ := h.spelled
  refine ⟨front, _, hfront, hline, ?_⟩
  cases gap with
  | nil => exact absurd rfl hne
  | cons c gap =>
    rw [List.cons_append]
    exact stops_cons (isWordChar_of_isBlank (allBlank_iff.mp hgap c (.head _))) _

theorem read_eq_define_iff {line : String} {f : Formula α} :
    read line = .ok (some (.define f)) ↔ Defines line.toList f := by
  refine ⟨defines_of_read, fun h => ?_⟩
  have hkeyword : KeywordLine line.toList := by
    obtain ⟨_, _, _, _, hline, _⟩ := h
    exact hline.keywordLine
  rw [read_eq_some_iff, readChars_of_keywordLine hkeyword]
  exact ⟨hkeyword.not_allBlank, readDefinition_eq_define_iff.mpr h⟩

theorem definitionLine_spelled {name body : String} {ps : List (List Char)} (hname : Identifier name.toList)
    (hps : ParameterList ps) (hbody : '\n' ∉ body.toList) :
    DefinitionLine ("def " ++ name ++ "(" ++ ", ".intercalate (ps.map String.ofList) ++ ") = " ++ body).toList name
      (", ".toList.intercalate ps) (' ' :: body.toList) where
  identifier := hname
  params_free := hps.free
  body_free := by simpa using hbody
  spelled := by
    refine ⟨[], [' '], [], [' '], rfl, rfl, List.cons_ne_nil _ _, rfl, rfl, ?_⟩
    simp [Function.comp_def]

theorem read_definition {name body : String} {ps : List (List Char)} (hname : FreeName name) (hps : ParameterList ps)
    (hbody : ∀ c ∈ body.toList, c ≠ '\n' ∧ c ≠ '=') (hblank : allBlank body.toList = false) :
    read ("def " ++ name ++ "(" ++ ", ".intercalate (ps.map String.ofList) ++ ") = " ++ body) =
      .ok (some (.define (⟨name, ps.map String.ofList, Token.ofText body⟩ : Formula α))) := by
  have hline : '\n' ∉ body.toList := fun h => (hbody _ h).1 rfl
  have hequals : '=' ∉ ' ' :: body.toList := by
    rw [List.mem_cons, not_or]
    exact ⟨by decide, fun h => (hbody _ h).2 rfl⟩
  rw [read_eq_define_iff]
  refine ⟨name, _, _, ps, definitionLine_spelled hname.1 hps hline, hps.itemList, hname.2, hequals, hblank, hps, ?_⟩
  rw [ofChars_cons_space, Token.ofText]

/-- It can stand between the parentheses of a call. -/
def Argument (a : String) : Prop := a ≠ "" ∧ trimmed a = a ∧ ∀ c ∈ a.toList, c ≠ ',' ∧ isParenthesis c = false

instance : DecidablePred Argument := fun a =>
  have := List.decidableBAll (fun c => c ≠ ',' ∧ isParenthesis c = false) a.toList
  inferInstanceAs (Decidable (_ ∧ _ ∧ _))

theorem Argument.item {a : String} (h : Argument a) : Item a.toList := by
  constructor
  · rw [← String.toList_ofList (l := trim a.toList)]
    exact congrArg String.toList h.2.1
  · exact fun hcomma => (h.2.2 _ hcomma).1 rfl

theorem callLine_spelled {name : String} {arguments : List String} (hname : Identifier name.toList)
    (harguments : ∀ a ∈ arguments, Argument a) :
    CallLine (name ++ "(" ++ ", ".intercalate arguments ++ ")").toList name
      (", ".toList.intercalate (arguments.map String.toList)) where
  identifier := hname
  list_free := by
    apply free_intercalate
    rw [List.forall_mem_map]
    exact fun a ha c hc => ((harguments a ha).2.2 c hc).2
  spelled := ⟨[], [], [], rfl, rfl, rfl, by simp [String.toList_intercalate]⟩

theorem items_arguments {arguments : List String} (harguments : ∀ a ∈ arguments, Argument a) :
    [] ∉ arguments.map String.toList ∧
      items (", ".toList.intercalate (arguments.map String.toList)) = arguments.map String.toList := by
  have hne : [] ∉ arguments.map String.toList := by
    intro h
    obtain ⟨a, ha, hnil⟩ := List.mem_map.mp h
    exact (harguments a ha).1 (String.toList_eq_nil_iff.mp hnil)
  refine ⟨hne, items_eq_iff.mpr (itemList_intercalate hne ?_)⟩
  rw [List.forall_mem_map]
  exact fun a ha => (harguments a ha).item

theorem read_call {name : String} {arguments : List String} (hname : FreeName name)
    (harguments : ∀ a ∈ arguments, Argument a) :
    (read (name ++ "(" ++ ", ".intercalate arguments ++ ")") : Except Fault (Option (Command α))) =
      .ok (some (.call name arguments)) := by
  have hline := callLine_spelled hname.1 harguments
  have hkeyword : ¬KeywordLine (name ++ "(" ++ ", ".intercalate arguments ++ ")").toList := by
    have hparenthesis : continuesName '(' = false := rfl
    have h := not_keywordLine_of_freeName hname
      (stops_cons hparenthesis ((", ".intercalate arguments).toList ++ [')']))
    simpa using h
  obtain ⟨hne, hitems⟩ := items_arguments harguments
  rw [read_eq_some_iff, readChars_of_callLine hkeyword hline.not_hasAssignment hline, readCall_eq_ok_iff, hitems]
  refine ⟨hline.not_allBlank, hne, ?_⟩
  rw [List.map_map]
  simp [Function.comp_def]

end Command

end DeskCalc
