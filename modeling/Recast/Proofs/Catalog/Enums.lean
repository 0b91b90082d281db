import Recast.Proofs.Catalog.KeptParts

/-! The rules for enums. A match goes from a derive attribute over lines with further attributes to the
head of the enum. Behind every closing parenthesis in it only such lines stand before the head, so the
heads of two enums cannot follow the same parenthesis: what one rule writes is shut for the pattern of
every other enum, and the type name that it writes keeps itself from applying again. With the rules
for enums all repairs settle. -/

namespace Recast

namespace Catalog

open Pattern

def Hashed (line : Text) : Prop :=
  ∃ indent body, line = indent ++ '#' :: body ∧ (∀ c ∈ indent, isIndent c = true) ∧ '\n' ∉ body

theorem Hashed.notin_break {line : Text} (h : Hashed line) : '\n' ∉ line := by
  obtain ⟨indent, body, rfl, hindent, hbody⟩ := h
  have hi : '\n' ∉ indent := Text.notin_of_class hindent (by decide)
  simp [hi, hbody]

def under : List Text → Text → Text
  | [], last => last
  | line :: more, last => line ++ '\n' :: under more last

theorem under_eq (lines : List Text) (last : Text) :
    '\n' :: under lines last = lines.flatMap ('\n' :: ·) ++ '\n' :: last := by
  induction lines with
  | nil => rfl
  | cons line lines ih => simp [under, ih]

def enumHead (indent name : Text) : Text := indent ++ (Text.spell "pub enum " ++ name)

/-- The current line goes on, and then only lines with attributes stand before the head of the
enum. -/
def Heads (name text : Text) : Prop :=
  ∃ line lines indent more, '\n' ∉ line ∧ (∀ l ∈ lines, Hashed l) ∧
    (∀ c ∈ indent, isIndent c = true) ∧
      text = line ++ '\n' :: under lines (enumHead indent (name ++ more))

def Leads (name text : Text) : Prop := ∀ before behind, text = before ++ ')' :: behind → Heads name behind

theorem under_append (lines : List Text) (last more : Text) :
    under lines last ++ more = under lines (last ++ more) := by
  induction lines with
  | nil => rfl
  | cons line lines ih => simp [under, ih]

theorem Heads.append {name text : Text} (h : Heads name text) (tail : Text) :
    Heads name (text ++ tail) := by
  obtain ⟨line, lines, indent, more, hline, hlines, hindent, rfl⟩ := h
  refine ⟨line, lines, indent, more ++ tail, hline, hlines, hindent, ?_⟩
  simp [under_append, enumHead]

theorem under_inj {lines lines' : List Text} {indent indent' more more' : Text}
    (hlines : ∀ l ∈ lines, Hashed l) (hindent : ∀ c ∈ indent, isIndent c = true)
    (hlines' : ∀ l ∈ lines', Hashed l) (hindent' : ∀ c ∈ indent', isIndent c = true)
    (heq : under lines (enumHead indent more) = under lines' (enumHead indent' more')) :
    lines = lines' ∧ indent = indent' ∧ more = more' := by
  -- line by line: an attribute does not begin like the head of an enum
  induction lines generalizing lines' with
  | nil =>
    cases lines' with
    | nil =>
      have hcut : indent ++ 'p' :: (Text.spell "ub enum " ++ more) =
          indent' ++ 'p' :: (Text.spell "ub enum " ++ more') := heq
      obtain ⟨hsame, -, htail⟩ := Text.append_cons_inj hindent (by decide) hindent' (by decide) hcut
      exact ⟨rfl, hsame, List.append_cancel_left htail⟩
    | cons first lines' =>
      obtain ⟨blank, body, rfl, hblank, -⟩ := hlines' first List.mem_cons_self
      have hcut : indent ++ 'p' :: (Text.spell "ub enum " ++ more) =
          (blank ++ '#' :: body) ++ '\n' :: under lines' (enumHead indent' more') := heq
      rw [List.append_assoc, List.cons_append] at hcut
      exact absurd (Text.append_cons_inj hindent (by decide) hblank (by decide) hcut).2.1 (by decide)
  | cons first lines ih =>
    cases lines' with
    | nil =>
      obtain ⟨blank, body, rfl, hblank, -⟩ := hlines first List.mem_cons_self
      have hcut : indent' ++ 'p' :: (Text.spell "ub enum " ++ more') =
          (blank ++ '#' :: body) ++ '\n' :: under lines (enumHead indent more) := heq.symm
      rw [List.append_assoc, List.cons_append] at hcut
      exact absurd (Text.append_cons_inj hindent' (by decide) hblank (by decide) hcut).2.1 (by decide)
    | cons first' lines' =>
      have hfirst := hlines first List.mem_cons_self
      have hfirst' := hlines' first' List.mem_cons_self
      obtain ⟨rfl, htail⟩ := Text.append_mark_inj hfirst.notin_break hfirst'.notin_break heq
      obtain ⟨rfl, hsame⟩ := ih (fun l hl => hlines l (List.mem_cons_of_mem _ hl))
        (fun l hl => hlines' l (List.mem_cons_of_mem _ hl)) htail
      exact ⟨rfl, hsame⟩

theorem Heads.agree {name other text : Text} (h : Heads name text) (h' : Heads other text) :
    name.agree other = true := by
  obtain ⟨line, lines, indent, more, hline, hlines, hindent, rfl⟩ := h
  obtain ⟨line', lines', indent', more', hline', hlines', hindent', heq⟩ := h'
  obtain ⟨-, hunder⟩ := Text.append_mark_inj hline hline' heq
  exact Text.agree_of_append_eq (under_inj hlines hindent hlines' hindent' hunder).2.2

theorem leads_lines {name indent : Text} {lines : List Text} (hlines : ∀ l ∈ lines, Hashed l)
    (hindent : ∀ c ∈ indent, isIndent c = true) (hname : ')' ∉ name) : ∀ {line : Text},
      '\n' ∉ line → Leads name (line ++ '\n' :: under lines (enumHead indent name)) := by
  induction lines with
  | nil =>
    intro line hline before behind heq
    rcases Text.cut_cut (by decide) heq.symm with ⟨gap, rfl, rfl⟩ | ⟨gap, -, hhead⟩
    · refine ⟨gap, [], indent, [], ?_, by simp, hindent, by simp [under, enumHead]⟩
      exact fun hmem => hline (by simp [hmem])
    · have hclosed : ')' ∉ enumHead indent name := by
        have hfixed : ')' ∉ Text.spell "pub enum " := by decide
        simp [enumHead, Text.notin_of_class hindent, isIndent, hfixed, hname]
      rw [under] at hhead
      exact absurd (by rw [hhead]; simp) hclosed
  | cons first lines ih =>
    intro line hline before behind heq
    rcases Text.cut_cut (by decide) heq.symm with ⟨gap, rfl, rfl⟩ | ⟨gap, -, hmore⟩
    · refine ⟨gap, first :: lines, indent, [], ?_, hlines, hindent, by simp [enumHead]⟩
      exact fun hmem => hline (by simp [hmem])
    · exact ih (fun l hl => hlines l (List.mem_cons_of_mem _ hl))
        (hlines first List.mem_cons_self).notin_break _ _ hmore

theorem Leads.closing {name front behind : Text} (h : Leads name behind) (hhere : Heads name behind)
    (hfront : ')' ∉ front) : Leads name (front ++ ')' :: behind) := by
  intro before more heq
  rcases List.append_eq_append_iff.mp heq with ⟨gap, rfl, hgap⟩ | ⟨gap, rfl, hgap⟩
  · cases gap with
    | nil =>
      obtain rfl := (List.cons.inj hgap).2
      exact hhere
    | cons c gap =>
      obtain ⟨-, rfl⟩ := List.cons.inj hgap
      exact h gap more rfl
  · cases gap with
    | nil =>
      obtain rfl := (List.cons.inj hgap).2
      exact hhere
    | cons c gap =>
      obtain ⟨rfl, -⟩ := List.cons.inj hgap
      exact absurd (by simp) hfront

/-- An enum from its derive attribute up to its name: `lead` is the rest of the line with the attribute,
`lines` are those between it and the enum. -/
structure Item where
  derives : Text
  lead : Text
  lines : List Text
  indent : Text
  closed : ')' ∉ derives
  lead_line : '\n' ∉ lead
  hashed : ∀ line ∈ lines, Hashed line
  indented : ∀ c ∈ indent, isIndent c = true

namespace Item

variable (item : Item) {name : Text}

def behind (name : Text) : Text :=
  (']' :: item.lead) ++ '\n' :: under item.lines (enumHead item.indent name)

def opening : Text := Text.spell "#[derive(" ++ item.derives

def text (name : Text) : Text := item.opening ++ ')' :: item.behind name

theorem opening_closed : ')' ∉ item.opening := by
  have hfixed : ')' ∉ Text.spell "#[derive(" := by decide
  simp [opening, hfixed, item.closed]

theorem notin_lead : '\n' ∉ ']' :: item.lead := by
  simp [item.lead_line]

theorem heads_behind : Heads name (item.behind name) :=
  ⟨']' :: item.lead, item.lines, item.indent, [], item.notin_lead, item.hashed, item.indented,
    by simp [behind, enumHead]⟩

theorem leads_behind (hname : ')' ∉ name) : Leads name (item.behind name) :=
  leads_lines item.hashed item.indented hname item.notin_lead

theorem leads_text (hname : ')' ∉ name) : Leads name (item.text name) :=
  (item.leads_behind hname).closing item.heads_behind item.opening_closed

end Item

namespace Form

def carriage : Pattern := repeated (one '\r') ⟨0, some 1, false⟩

def blankEnd : Pattern := seq indent (seq carriage (one '\n'))

def attributeLine : Pattern :=
  seq indent (lit (Text.spell "#[") (seq (without '\n') (lit [']'] blankEnd)))

def enumShape (name : Text) : Pattern :=
  lit (Text.spell "#[derive(")
    (seq (without ')')
      (lit (Text.spell ")]")
        (seq indent
          (seq carriage
            (lit ['\n']
              (seq (repeated attributeLine ⟨0, none, false⟩)
                (seq indent (lit (Text.spell "pub enum ") (lit name wordEdge)))))))))

variable {prev : Option Char} {text rest : Text}

theorem reads_carriage (h : carriage.Reads prev text rest) : '\n' ∉ text := by
  rcases reads_optional.mp h with rfl | h
  · simp
  · obtain ⟨c, rfl, hc⟩ := reads_char.mp h
    rw [CharClass.has_single.mp hc]
    decide

theorem reads_blankEnd (h : blankEnd.Reads prev text rest) :
    ∃ blank, '\n' ∉ blank ∧ text = blank ++ ['\n'] := by
  obtain ⟨blank, more, rfl, hblank, h₁⟩ := reads_seq.mp h
  obtain ⟨mark, last, rfl, hmark, hlast⟩ := reads_seq.mp h₁
  obtain ⟨c, rfl, hc⟩ := reads_char.mp hlast
  obtain rfl := CharClass.has_single.mp hc
  refine ⟨blank ++ mark, ?_, by simp⟩
  simp [Text.notin_of_class (reads_indent.mp hblank), isIndent, reads_carriage hmark]

theorem reads_attributeLine (h : attributeLine.Reads prev text rest) :
    ∃ line, Hashed line ∧ text = line ++ ['\n'] := by
  obtain ⟨blank, more, rfl, hblank, h₁⟩ := reads_seq.mp h
  obtain ⟨more, rfl, h₂⟩ := reads_lit.mp h₁
  obtain ⟨inner, more, rfl, hinner, h₃⟩ := reads_seq.mp h₂
  obtain ⟨more, rfl, h₄⟩ := reads_lit.mp h₃
  obtain ⟨lead, hlead, rfl⟩ := reads_blankEnd h₄
  refine ⟨blank ++ '#' :: ('[' :: (inner ++ ']' :: lead)),
    ⟨blank, _, rfl, reads_indent.mp hblank, ?_⟩, by simp [Text.spell]⟩
  have hline : '\n' ∉ inner := notin_others hinner
  simp [hline, hlead]

theorem times_attributeLine (n : Nat) : ∀ {prev : Option Char} {text : Text},
    attributeLine.Times n prev text rest →
      ∃ lines, (∀ line ∈ lines, Hashed line) ∧ ∀ last, text ++ last = under lines last := by
  induction n with
  | zero =>
    intro prev text h
    obtain rfl : text = [] := h
    exact ⟨[], by simp, fun _ => rfl⟩
  | succ n ih =>
    rintro prev text ⟨first, more, rfl, hfirst, hmore⟩
    obtain ⟨line, hline, rfl⟩ := reads_attributeLine hfirst
    obtain ⟨lines, hlines, hunder⟩ := ih hmore
    refine ⟨line :: lines, ?_, fun last => by simp [under, ← hunder]⟩
    intro l hl
    rcases List.mem_cons.mp hl with rfl | hl
    · exact hline
    · exact hlines l hl

theorem reads_enum {name : Text} (h : (enumShape name).Reads prev text rest) :
    ∃ item : Item, text = item.text name ∧
      (Look.wordEdge .unicode).holds ⟨0, Text.lastFrom prev text, rest⟩ = true := by
  obtain ⟨more, rfl, h₁⟩ := reads_lit.mp h
  obtain ⟨derives, more, rfl, hderives, h₂⟩ := reads_seq.mp h₁
  obtain ⟨more, rfl, h₃⟩ := reads_lit.mp h₂
  obtain ⟨blank, more, rfl, hblank, h₄⟩ := reads_seq.mp h₃
  obtain ⟨mark, more, rfl, hmark, h₅⟩ := reads_seq.mp h₄
  obtain ⟨more, rfl, h₆⟩ := reads_lit.mp h₅
  obtain ⟨attributes, more, rfl, hattributes, h₇⟩ := reads_seq.mp h₆
  obtain ⟨indent, more, rfl, hindent, h₈⟩ := reads_seq.mp h₇
  obtain ⟨more, rfl, h₉⟩ := reads_lit.mp h₈
  obtain ⟨more, rfl, h₁₀⟩ := reads_lit.mp h₉
  obtain ⟨rfl, hedge⟩ := reads_look.mp h₁₀
  obtain ⟨n, -, -, htimes⟩ := reads_repeated.mp hattributes
  obtain ⟨lines, hlines, hunder⟩ := times_attributeLine n htimes
  have hline : '\n' ∉ blank ++ mark := by
    simp [Text.notin_of_class (reads_indent.mp hblank), isIndent, reads_carriage hmark]
  refine ⟨⟨derives, blank ++ mark, lines, indent, notin_others hderives, hline, hlines,
    reads_indent.mp hindent⟩, ?_, ?_⟩
  · simp [Item.text, Item.opening, Item.behind, enumHead, ← hunder, Text.spell]
  · simpa only [Text.lastFrom_append, List.append_nil] using hedge

end Form

def typeMark (name : Text) : Text := Text.spell "type_name = \"" ++ (snakeCase name ++ ['"'])

def typeFront (name : Text) : Text :=
  Text.spell "#[sqlx(" ++ (typeMark name ++ Text.spell ", rename_all = \"snake_case\"")

def isPlainChar (c : Char) : Bool := c.isAlphanum || c == '_'

def IsPlain (name : Text) : Prop := (name ++ snakeCase name).all isPlainChar = true

instance (name : Text) : Decidable (IsPlain name) := inferInstanceAs (Decidable (_ = true))

namespace IsPlain

variable {name : Text} {c : Char} (h : IsPlain name) (hc : isPlainChar c = false)

include h hc

theorem notin : c ∉ name :=
  Text.notin_of_class (fun d hd => List.all_eq_true.mp h d (List.mem_append_left _ hd)) hc

theorem notin_snakeCase : c ∉ snakeCase name :=
  Text.notin_of_class (fun d hd => List.all_eq_true.mp h d (List.mem_append_right _ hd)) hc

theorem notin_enumHead {indent : Text} (hindent : ∀ d ∈ indent, isIndent d = true)
    (hi : isIndent c = false) (hfixed : c ∉ Text.spell "pub enum ") : c ∉ enumHead indent name := by
  simp [enumHead, Text.notin_of_class hindent hi, hfixed, h.notin hc]

end IsPlain

theorem typeFront_closed {name : Text} (h : IsPlain name) {c : Char} (hc : isPlainChar c = false)
    (hfixed : c ∉ typeFront []) : c ∉ typeFront name := by
  simp only [typeFront, typeMark, List.mem_append, not_or, snakeCase] at hfixed ⊢
  exact ⟨hfixed.1, ⟨hfixed.2.1.1, h.notin_snakeCase hc, hfixed.2.1.2.2⟩, hfixed.2.2⟩

def typeLine (indent name : Text) : Text := (indent ++ typeFront name) ++ [')', ']']

theorem hashed_typeLine {indent name : Text} (hindent : ∀ c ∈ indent, isIndent c = true)
    (h : IsPlain name) : Hashed (typeLine indent name) := by
  refine ⟨indent, (typeFront name).tail ++ [')', ']'], by simp [typeLine, typeFront, Text.spell],
    hindent, ?_⟩
  have hline : '\n' ∉ typeFront name := typeFront_closed h (by decide) (by decide)
  have htail : '\n' ∉ (typeFront name).tail := fun hmem => hline (List.mem_of_mem_tail hmem)
  simp [htail]

def Item.typed (item : Item) {name : Text} (h : IsPlain name) : Item where
  derives := item.derives
  lead := item.lead
  lines := item.lines ++ [typeLine item.indent name]
  indent := item.indent
  closed := item.closed
  lead_line := item.lead_line
  indented := item.indented
  hashed := by
    intro line hline
    rcases List.mem_append.mp hline with hline | hline
    · exact item.hashed line hline
    · rw [List.mem_singleton.mp hline]
      exact hashed_typeLine item.indented h

def isTrail (c : Char) : Bool := Text.isBlank c || c == ','

inductive Derives : Text → Text → Prop where
  | kept : Derives [] []
  | first {trail : Text} (h : ∀ c ∈ trail, isTrail c = true) :
    Derives ('(' :: trail) (Text.spell "(sqlx::Type")
  | further {trail : Text} (h : ∀ c ∈ trail, isTrail c = true) :
    Derives trail (Text.spell ", sqlx::Type")

def Typed (name old new : Text) : Prop :=
  ∃ (h : IsPlain name) (item : Item) (ending ending' : Text), Derives ending ending' ∧
    old = ending ++ ')' :: item.behind name ∧ new = ending' ++ ')' :: (item.typed h).behind name

/-- Nothing but a trail of white space and commas is lost where the column type is added. -/
theorem addColumnType_trail (derives rest : Text) :
    ∃ core trail, derives = core ++ trail ∧ (∀ c ∈ trail, isTrail c = true) ∧
      core.getLast? ≠ some ',' ∧ addColumnType derives rest =
        core ++ ((if core.getLast? = some '(' then [] else Text.spell ", ") ++
          (Text.spell "sqlx::Type)]" ++ rest)) := by
  obtain ⟨blanks, hblanks, hblank⟩ := Text.dropEndWhile_append Text.isBlank derives
  obtain ⟨commas, hcommas, hcomma⟩ :=
    Text.dropEndWhile_append (· = ',') (Text.dropEndWhile Text.isBlank derives)
  have hlast := Text.getLast?_dropEndWhile_ne (p := (· = ',')) (c := ',')
    (Text.dropEndWhile Text.isBlank derives) (by simp)
  generalize hcore : Text.dropEndWhile (· = ',') (Text.dropEndWhile Text.isBlank derives) = core
    at hcommas hlast
  refine ⟨core, commas ++ blanks, ?_, ?_, hlast, ?_⟩
  · rw [← List.append_assoc, ← hcommas, ← hblanks]
  · intro c hc
    rcases List.mem_append.mp hc with hc | hc
    · simpa [isTrail] using .inr (of_decide_eq_true (hcomma c hc))
    · simp [isTrail, hblank c hc]
  · simp only [addColumnType, Text.trimEnd, hcore, Text.spell_eq, List.append_assoc]

theorem addColumnType_eq (derives rest : Text) :
    ∃ front ending ending', Derives ending ending' ∧ derives = front ++ ending ∧
      addColumnType derives rest = front ++ (ending' ++ Text.spell ")]" ++ rest) := by
  obtain ⟨core, trail, hderives, htrail, -, hadd⟩ := addColumnType_trail derives rest
  by_cases hlast : core.getLast? = some '('
  · obtain ⟨front, rfl⟩ := List.getLast?_eq_some_iff.mp hlast
    refine ⟨front, '(' :: trail, _, .first htrail, by simp [hderives], ?_⟩
    rw [hadd, if_pos hlast]
    simp [Text.spell]
  · refine ⟨core, trail, _, .further htrail, hderives, ?_⟩
    rw [hadd, if_neg hlast]
    simp [Text.spell]

namespace Item

variable (item : Item) {name : Text}

def middle : Text := item.lead ++ item.lines.flatMap ('\n' :: ·)

theorem behind_eq (name : Text) :
    item.behind name = ']' :: (item.middle ++ '\n' :: enumHead item.indent name) := by
  simp [behind, middle, under_eq]

theorem typed_behind_eq (h : IsPlain name) :
    (item.typed h).behind name = ']' :: (item.middle ++
      '\n' :: (typeLine item.indent name ++ '\n' :: enumHead item.indent name)) := by
  simp [behind_eq, middle, typed]

theorem text_eq (name : Text) :
    item.text name =
      (item.opening ++ (Text.spell ")]" ++ item.middle)) ++ '\n' :: enumHead item.indent name := by
  simp [text, behind_eq, Text.spell]

theorem trimStart_enumHead {indent : Text} (hindent : ∀ c ∈ indent, isIndent c = true) (name : Text) :
    Text.trimStart (enumHead indent name) = Text.spell "pub enum " ++ name := by
  have hblank : ∀ c ∈ indent, Text.isBlank c = true := by
    intro c hc
    rcases Bool.or_eq_true_iff.mp (hindent c hc) with hc | hc <;> rw [eq_of_beq hc] <;> decide
  rw [Text.trimStart, enumHead, List.dropWhile_append_of_pos hblank]
  rfl

theorem deriveColumnType_eq (h : IsPlain name) :
    deriveColumnType (item.text name) =
      (if Text.within "sqlx::Type".toList item.opening then
          item.opening ++ (Text.spell ")]" ++ item.middle)
        else addColumnType item.opening item.middle) ++
          '\n' :: (typeLine item.indent name ++ '\n' :: enumHead item.indent name) := by
  have hline : '\n' ∉ enumHead item.indent name :=
    h.notin_enumHead (by decide) item.indented (by decide) (by decide)
  have hlast := Text.splitLast?_of_notin (item.opening ++ (Text.spell ")]" ++ item.middle)) hline
  have honce : Text.splitOnce? ")]".toList (item.opening ++ (Text.spell ")]" ++ item.middle)) =
      some (item.opening, item.middle) := by
    rw [String.toList_ofList]
    exact Text.splitOnce?_of_notin item.opening_closed [']'] item.middle
  have hstrip : Text.stripStart? "pub enum ".toList (Text.spell "pub enum " ++ name) = some name := by
    rw [← Text.spell_eq]
    exact Text.stripStart?_append _ name
  have htake : (enumHead item.indent name).take
      ((enumHead item.indent name).length - (Text.spell "pub enum " ++ name).length) =
        item.indent := by
    simp [enumHead]
  rw [text_eq]
  simp only [deriveColumnType, hlast, trimStart_enumHead item.indented, hstrip, honce, htake]
  generalize (if Text.within "sqlx::Type".toList item.opening = true then _ else _) = head
  generalize enumHead item.indent name = decl
  simp [typeLine, typeFront, typeMark, Text.spell]

/-- What the rule makes of an enum. -/
theorem deriveColumnType_text (h : IsPlain name) :
    ∃ front old new, Typed name old new ∧ item.text name = front ++ old ∧
      deriveColumnType (item.text name) = front ++ new := by
  rw [item.deriveColumnType_eq h]
  split
  · refine ⟨item.opening, _, _, ⟨h, item, _, _, .kept, rfl, rfl⟩, rfl, ?_⟩
    simp [typed_behind_eq, Text.spell]
  · obtain ⟨front, ending, ending', hending, hopening, hadd⟩ :=
      addColumnType_eq item.opening item.middle
    refine ⟨front, _, _, ⟨h, item, _, _, hending, rfl, rfl⟩, by simp [text, hopening], ?_⟩
    rw [hadd]
    simp [typed_behind_eq, Text.spell]

end Item

theorem Derives.notin {ending ending' : Text} (h : Derives ending ending') {c : Char}
    (hfirst : c ∉ Text.spell "(sqlx::Type") (hfurther : c ∉ Text.spell ", sqlx::Type") :
    c ∉ ending' := by
  cases h with
  | kept => simp
  | first => exact hfirst
  | further => exact hfurther

theorem Derives.head {ending ending' : Text} (h : Derives ending ending') {inside : Text}
    (hinside : inside <+: ending') (hne : inside ≠ []) : '(' ∈ inside ∨ ',' ∈ inside := by
  obtain ⟨c, inside, rfl⟩ := List.exists_cons_of_ne_nil hne
  cases h with
  | kept => cases List.prefix_nil.mp hinside
  | first => exact .inl (by simp [(List.cons_prefix_cons.mp hinside).1])
  | further => exact .inr (by simp [(List.cons_prefix_cons.mp hinside).1])

theorem Derives.trail {ending ending' : Text} (h : Derives ending ending') :
    ∀ c ∈ ending, c = '(' ∨ isTrail c = true := by
  cases h with
  | kept => simp
  | first htrail =>
    intro c hc
    rcases List.mem_cons.mp hc with rfl | hc
    · exact .inl rfl
    · exact .inr (htrail c hc)
  | further htrail => exact fun c hc => .inr (htrail c hc)

namespace Typed

variable {name other old new : Text}

theorem leads (h : Typed name old new) : Leads name new := by
  obtain ⟨hplain, item, ending, ending', hending, -, rfl⟩ := h
  exact ((item.typed hplain).leads_behind (hplain.notin (by decide))).closing
    (item.typed hplain).heads_behind (hending.notin (by decide) (by decide))

theorem last (h : Typed name old new) :
    ∃ front last, new = front ++ ')' :: last ∧ '#' ∉ last := by
  obtain ⟨hplain, item, ending, ending', hending, -, rfl⟩ := h
  have hhead : '#' ∉ enumHead item.indent name :=
    hplain.notin_enumHead (by decide) item.indented (by decide) (by decide)
  refine ⟨ending' ++ (')' :: ']' :: (item.middle ++ '\n' :: (item.indent ++ typeFront name))),
    ']' :: '\n' :: enumHead item.indent name, ?_, by simp [hhead]⟩
  simp [Item.typed_behind_eq, typeLine]

theorem stops (h : Typed name old new) (hother : IsPlain other) (hne : other.agree name = false) :
    (Form.enumShape other).Stops new := by
  intro prev left inside rest tail _ hr heq
  refine Decidable.byContradiction fun hinside => ?_
  obtain ⟨item, hfound, -⟩ := Form.reads_enum hr
  by_cases hclose : ')' ∈ inside
  · -- behind the parenthesis stand the heads of both enums
    obtain ⟨before, behind, rfl, hbefore⟩ := List.eq_append_cons_of_mem hclose
    have hheads : Heads other (behind ++ rest) := by
      have hsplit : item.text other = (left ++ before) ++ ')' :: behind := by simp [← hfound]
      exact (item.leads_text (hother.notin (by decide)) _ _ hsplit).append rest
    obtain ⟨hplain, item', ending, ending', hending, -, rfl⟩ := h
    have hcut : before ++ ')' :: (behind ++ rest) =
        ending' ++ ')' :: ((item'.typed hplain).behind name ++ tail) := by
      simpa using heq
    obtain ⟨-, hbehind⟩ :=
      Text.append_mark_inj hbefore (hending.notin (by decide) (by decide)) hcut
    have hagree := hheads.agree (hbehind ▸ (item'.typed hplain).heads_behind.append tail)
    rw [hne] at hagree
    cases hagree
  · -- the match ends in what has been added to the derive attribute
    obtain ⟨hplain, item', ending, ending', hending, -, rfl⟩ := h
    have hcut : inside ++ rest = ending' ++ ')' :: ((item'.typed hplain).behind name ++ tail) := by
      simpa using heq
    have hbegin : inside <+: ending' := Text.prefix_of_notin hclose hcut
    have hline : '\n' ∉ inside := fun hmem =>
      hending.notin (by decide) (by decide) (hbegin.subset hmem)
    have hcut' : (item.opening ++ (Text.spell ")]" ++ item.middle)) ++
        '\n' :: enumHead item.indent other = left ++ inside := by
      rw [hfound, item.text_eq]
    have hsuffix := Text.suffix_of_notin hline hcut'
    rcases hending.head hbegin hinside with hmem | hmem
    · exact hother.notin_enumHead (by decide) item.indented (by decide) (by decide)
        (hsuffix.subset hmem)
    · exact hother.notin_enumHead (by decide) item.indented (by decide) (by decide)
        (hsuffix.subset hmem)

theorem quiet (h : Typed name old new) (hne : other.agree name = false) (prev : Option Char) :
    (Form.enumShape other).Quiet prev new := by
  intro left right tail hnew hright
  refine width?_eq_none_iff_reads.mpr fun found rest heq hr => ?_
  obtain ⟨item, rfl, -⟩ := Form.reads_enum hr
  by_cases hclose : ')' ∈ right
  · obtain ⟨before, behind, rfl, hbefore⟩ := List.eq_append_cons_of_mem hclose
    have hheads : Heads name (behind ++ tail) := by
      have hsplit : new = (left ++ before) ++ ')' :: behind := by simp [hnew]
      exact (h.leads _ _ hsplit).append tail
    have hcut : before ++ ')' :: (behind ++ tail) =
        item.opening ++ ')' :: (item.behind other ++ rest) := by
      simpa [Item.text] using heq
    obtain ⟨-, hbehind⟩ := Text.append_mark_inj hbefore item.opening_closed hcut
    have hagree := (item.heads_behind.append rest).agree (hbehind ▸ hheads)
    rw [hne] at hagree
    cases hagree
  · -- a match begins with an attribute
    obtain ⟨front, last, hlast, hhash⟩ := h.last
    have hsuffix := Text.suffix_of_notin hclose (hlast.symm.trans hnew)
    obtain ⟨c, right, rfl⟩ := List.exists_cons_of_ne_nil hright
    have hc : c = '#' := (List.cons.inj heq).1
    exact hhash (hsuffix.subset (by simp [hc]))

theorem shut (h : Typed name old new) (hother : IsPlain other) (hne : other.agree name = false) :
    (Form.enumShape other).Shut new where
  nonempty := by
    obtain ⟨front, last, rfl, -⟩ := h.last
    simp
  stops := h.stops hother hne
  quiet := h.quiet hne

theorem sameEdges (h : Typed name old new) : old.sameEdges new = true := by
  obtain ⟨hplain, item, ending, ending', hending, rfl, rfl⟩ := h
  have hhead : Text.wordy (ending ++ ')' :: item.behind name).head? = false := by
    cases hcase : ending with
    | nil => rfl
    | cons c more =>
      rcases hending.trail c (by simp [hcase]) with rfl | hc
      · rfl
      · rcases Bool.or_eq_true_iff.mp hc with hc | hc
        · exact Text.isWord_of_isBlank hc
        · rw [eq_of_beq hc]
          rfl
  have hhead' : Text.wordy (ending' ++ ')' :: (item.typed hplain).behind name).head? = false := by
    cases hending <;> rfl
  have hlast : (ending ++ ')' :: item.behind name).getLast? =
      (ending' ++ ')' :: (item.typed hplain).behind name).getLast? := by
    simp [item.behind_eq, item.typed_behind_eq, enumHead, List.getLast?_append, List.getLast?_cons]
  rw [Text.sameEdges, hhead, hhead', hlast]
  simp

theorem mark_within (h : Typed name old new) : (typeMark name).within new = true := by
  obtain ⟨hplain, item, ending, ending', -, -, rfl⟩ := h
  rw [Text.within_iff_isInfix]
  refine ⟨ending' ++ (')' :: ']' :: (item.middle ++ '\n' :: (item.indent ++ Text.spell "#[sqlx("))),
    Text.spell ", rename_all = \"snake_case\"" ++ (')' :: ']' :: '\n' ::
      enumHead item.indent name), ?_⟩
  simp [item.typed_behind_eq, typeLine, typeFront]

theorem keeps_mark (h : Typed name old new) (hother : IsPlain other) {first second : Text}
    (hmark : (typeMark other).within (first ++ (old ++ second)) = true) :
    (typeMark other).within (first ++ (new ++ second)) = true := by
  obtain ⟨hplain, item, ending, ending', hending, rfl, rfl⟩ := h
  have hclosed : ')' ∉ typeMark other := by
    simp [typeMark, hother.notin_snakeCase (c := ')') (by decide), Text.spell]
  have hline : '\n' ∉ typeMark other := by
    simp [typeMark, hother.notin_snakeCase (c := '\n') (by decide), Text.spell]
  have hold : first ++ ((ending ++ ')' :: item.behind name) ++ second) = (first ++ ending) ++
      ')' :: ((']' :: item.middle) ++ '\n' :: (enumHead item.indent name ++ second)) := by
    simp [item.behind_eq]
  have hnew : first ++ ((ending' ++ ')' :: (item.typed hplain).behind name) ++ second) =
      first ++ ((ending' ++ [')']) ++ ((']' :: item.middle) ++
        (('\n' :: typeLine item.indent name ++ ['\n']) ++
          (enumHead item.indent name ++ second)))) := by
    simp [item.typed_behind_eq]
  rw [hold] at hmark
  rw [hnew]
  rcases Text.within_cut hclosed hmark with hmark | hmark
  · have hquote : '"' ∉ ending := fun hmem => absurd (hending.trail _ hmem) (by decide)
    have hlast : (typeMark other).getLast? = some '"' := by simp [typeMark]
    exact Text.within_append_left (Text.within_trim hlast hquote hmark) _
  · refine Text.within_append_right (Text.within_append_right ?_ _) _
    rcases Text.within_cut hline hmark with hmark | hmark
    · exact Text.within_append_left hmark _
    · exact Text.within_append_right (Text.within_append_right hmark _) _

end Typed

structure EnumForm where
  name : String
  read : (Regex.read? (enumPattern name)).map (·.pattern) = some (Form.enumShape name.toList) := by
    decide +kernel
  settled : (Form.enumShape name.toList).settled = true := by decide +kernel
  consumes : (Form.enumShape name.toList).consumes = true := by decide +kernel
  edged : (Form.enumShape name.toList).edged = true := by decide +kernel
  plain : IsPlain name.toList := by decide +kernel

namespace EnumForm

variable (form other : EnumForm) (text : Text)

def chars : Text := form.name.toList

def toForm : Form where
  source := enumPattern form.name
  pattern := Form.enumShape form.chars
  read := form.read
  settled := form.settled
  consumes := form.consumes

theorem valid : (Regex.read? (enumPattern form.name)).isSome = true := by
  rw [← Option.isSome_map, form.read]
  rfl

def rule : Rule := enumRule form.name form.valid

def AtRest (text : Text) : Prop :=
  (typeMark form.chars).within text = true ∨ (Form.enumShape form.chars).occurs none text = false

theorem guard_holds : form.rule.guard.holds text = !(typeMark form.chars).within text := by
  change (!Text.within _ text) = _
  simp [typeMark, chars, Text.spell]

theorem apply_of_atRest (h : form.AtRest text) : form.rule.apply text = text := by
  rcases h with hmark | hno
  · refine Rule.apply_of_guard_false ?_
    rw [form.guard_holds, hmark]
    rfl
  · exact form.toForm.apply_of_not_occurs rfl hno

theorem swept (h : (typeMark form.chars).within text = false) :
    Swept (Form.enumShape form.chars) (fun found fresh => ∃ front old new,
      Typed form.chars old new ∧ found = front ++ old ∧ fresh = front ++ new) none text
        (form.rule.apply text) := by
  have hg : form.rule.guard.holds text = true := by
    rw [form.guard_holds, h]
    rfl
  refine form.toForm.apply_swept rfl rfl hg fun htext hhit hspan => ?_
  obtain ⟨item, rfl, -⟩ := Form.reads_enum (reads_of_hit hhit hspan)
  have hplain : IsPlain form.chars := form.plain
  obtain ⟨front, old, new, htyped, hold, hnew⟩ := item.deriveColumnType_text hplain
  refine ⟨front, old, new, htyped, hold, ?_⟩
  rw [← hnew, Replacement.fill, hspan, htext, Span.slice_found]

theorem atRest_apply : form.AtRest (form.rule.apply text) := by
  by_cases hmark : (typeMark form.chars).within text = true
  · rw [form.apply_of_atRest text (.inl hmark)]
    exact .inl hmark
  · rcases (form.swept text (by simpa using hmark)).eq_or_fresh with ⟨hno, hsame⟩ | hfresh
    · rw [hsame]
      exact .inr hno
    · obtain ⟨_, _, before, behind, ⟨front, old, new, htyped, -, rfl⟩, hout⟩ := hfresh
      rw [hout]
      refine .inl (Text.within_append_right (Text.within_append_left ?_ _) _)
      exact Text.within_append_right htyped.mark_within _

theorem atRest_apply_other (hne : form.chars.agree other.chars = false) (h : form.AtRest text) :
    form.AtRest (other.rule.apply text) := by
  by_cases hmark : (typeMark other.chars).within text = true
  · rw [other.apply_of_atRest text (.inl hmark)]
    exact h
  · have hpatched : Patched (Typed other.chars) text (other.rule.apply text) := by
      refine (other.swept text (by simpa using hmark)).patched ?_
      rintro _ _ ⟨front, old, new, htyped, rfl, rfl⟩
      exact Patched.behind front (.single htyped)
    refine hpatched.keeps form.AtRest ?_ h
    rintro first old new second htyped (hmark | hno)
    · exact .inl (htyped.keeps_mark form.plain hmark)
    · refine .inr (Bool.eq_false_iff.mpr fun hyes => Bool.eq_false_iff.mp hno ?_)
      exact (htyped.shut form.plain hne).occurs_of_patch
        (blind_of_edged form.settled form.edged htyped.sameEdges) hyes

end EnumForm

/-- Enums of which no name begins with another one. -/
def Apart (forms : List EnumForm) : Prop :=
  forms.Pairwise fun form other => form.chars.agree other.chars = false

theorem Apart.eq_or_agree {forms : List EnumForm} (h : Apart forms) :
    ∀ form ∈ forms, ∀ other ∈ forms, form = other ∨ form.chars.agree other.chars = false := by
  induction h with
  | nil => simp
  | cons hfirst _ ih =>
    intro form hform other hother
    rcases List.mem_cons.mp hform with rfl | hform'
    · rcases List.mem_cons.mp hother with rfl | hother'
      · exact .inl rfl
      · exact .inr (hfirst other hother')
    · rcases List.mem_cons.mp hother with rfl | hother'
      · rw [Text.agree_comm]
        exact .inr (hfirst form hform')
      · exact ih form hform' other hother'

theorem enums_settle {set : RuleSet} (forms : List EnumForm) (hset : set.rules = forms.map (·.rule))
    (hapart : Apart forms) : set.Settles := by
  refine RuleSet.settles_of_rests (forms.map fun form => (form.rule, form.AtRest)) ?_ ?_ ?_ ?_
  · simp [hset]
  · intro step hs text hrest
    obtain ⟨form, -, rfl⟩ := List.mem_map.mp hs
    exact form.apply_of_atRest text hrest
  · intro step hs text
    obtain ⟨form, -, rfl⟩ := List.mem_map.mp hs
    exact form.atRest_apply text
  · intro step hs step' hs' text hrest
    obtain ⟨form, hform, rfl⟩ := List.mem_map.mp hs
    obtain ⟨other, hother, rfl⟩ := List.mem_map.mp hs'
    rcases hapart.eq_or_agree form hform other hother with rfl | hne
    · exact form.atRest_apply text
    · exact form.atRest_apply_other other text hne hrest

def vulnerabilityStatus : EnumForm where
  name := "VulnerabilityStatus"

def vulnerabilitySeverity : EnumForm where
  name := "VulnerabilitySeverity"

def assetType : EnumForm where
  name := "AssetType"

def reportType : EnumForm where
  name := "ReportType"

def reportStatus : EnumForm where
  name := "ReportStatus"

def reportFormat : EnumForm where
  name := "ReportFormat"

def pluginType : EnumForm where
  name := "PluginType"

theorem vulnerabilityTypes_settles : vulnerabilityTypes.Settles :=
  enums_settle [vulnerabilityStatus, vulnerabilitySeverity] rfl
    (by unfold Apart; decide +kernel)

theorem assetTypes_settles : assetTypes.Settles :=
  enums_settle [assetType] rfl (by unfold Apart; decide +kernel)

theorem reportTypes_settles : reportTypes.Settles :=
  enums_settle [reportType, reportStatus, reportFormat] rfl (by unfold Apart; decide +kernel)

theorem pluginTypes_settles : pluginTypes.Settles :=
  enums_settle [pluginType] rfl (by unfold Apart; decide +kernel)

/-- Every rule set for models, for the two counts, for the migrations, for the leftovers and for the
auth handler settles: applied to what it gave, no rule of it fires and the text stays as it is. -/
theorem repairs_settle :
    (∀ target ∈ sqlxTypeTransformation.targets, target.rules.Settles) ∧
      finalFixUser.Settles ∧ finalFixPlugins.Settles ∧ finalFixMain.Settles ∧
        fixAuthHandler.Settles := by
  refine ⟨?_, finalFixUser_settles, finalFixPlugins_settles, finalFixMain_settles,
    fixAuthHandler_settles⟩
  simp only [sqlxTypeTransformation, List.forall_mem_cons, List.not_mem_nil, false_implies,
    implies_true, and_true]
  exact ⟨vulnerabilityTypes_settles, assetTypes_settles, reportTypes_settles, pluginTypes_settles,
    teamCount_settles, assetCount_settles, disableMigrations_settles⟩

end Catalog

end Recast
