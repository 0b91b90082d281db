import Recast.Proofs.Catalog.Enums
import Recast.Proofs.Pattern.Beside
import Recast.Proofs.Pattern.Hits

/-! What the rule for an enum makes of a single item. An item is cut in one way only: at its first closing
parenthesis, at the line breaks behind it and at the head of the enum. So the repair, which looks for
these cuts in the text, finds the parts that the pattern has found. The repaired item has the same parts,
with one line more, and with the column type among what it derives. Whether the column type is there
already is asked of the first derive attribute only, so another one that derives it is not seen. -/

namespace Recast.Catalog

open Pattern

def columnType : Text := Text.spell "sqlx::Type"

def separator (kept : Text) : Text :=
  if kept = [] ∨ kept.getLast? = some '(' then [] else Text.spell ", "

/-- The arguments of a derive attribute before and after the repair. If the column type is not among
them, it becomes the last one, and only white space and commas before the closing bracket are lost. -/
inductive DerivesToo : Text → Text → Prop where
  | already {args : Text} (h : columnType.within args = true) : DerivesToo args args
  | added {kept trail : Text} (hlacks : columnType.within (kept ++ trail) = false)
    (htrail : ∀ c ∈ trail, isTrail c = true) (hkept : kept.getLast? ≠ some ',') :
    DerivesToo (kept ++ trail) (kept ++ (separator kept ++ columnType))

theorem DerivesToo.within {args args' : Text} (h : DerivesToo args args') :
    columnType.within args' = true := by
  cases h with
  | already h => exact h
  | added =>
    refine Text.within_append_right (Text.within_append_right ?_ _) _
    decide

theorem DerivesToo.closed {args args' : Text} (h : DerivesToo args args') (hargs : ')' ∉ args) :
    ')' ∉ args' := by
  cases h with
  | already => exact hargs
  | added =>
    have hkept := (not_or.mp (mt List.mem_append.mpr hargs)).1
    simp only [separator, List.mem_append, not_or]
    refine ⟨hkept, ?_, by decide⟩
    split <;> decide

theorem addColumnType_opening (args rest : Text) (hlacks : columnType.within args = false) :
    ∃ args', DerivesToo args args' ∧ addColumnType (Text.spell "#[derive(" ++ args) rest =
      Text.spell "#[derive(" ++ (args' ++ (Text.spell ")]" ++ rest)) := by
  obtain ⟨core, trail, hcut, htrail, hcomma, hadd⟩ :=
    addColumnType_trail (Text.spell "#[derive(" ++ args) rest
  obtain ⟨kept, rfl, rfl⟩ : ∃ kept, core = Text.spell "#[derive(" ++ kept ∧ args = kept ++ trail := by
    rcases List.append_eq_append_iff.mp hcut with ⟨gap, hcore, hargs⟩ | ⟨gap, hopening, rfl⟩
    · exact ⟨gap, hcore, hargs⟩
    · -- the trail would reach back to the opening parenthesis
      by_cases hne : gap = []
      · rw [hne, List.append_nil] at hopening
        exact ⟨[], by rw [List.append_nil, hopening], by rw [hne, List.nil_append]; rfl⟩
      · have hparenthesis : Text.spell "#[derive(" = Text.spell "#[derive" ++ ['('] := rfl
        obtain ⟨more, rfl, -⟩ := Text.concat_of_append hne (hopening.symm.trans hparenthesis)
        exact absurd (htrail '(' (by simp)) (by decide)
  have hends : (Text.spell "#[derive(" ++ kept).getLast? = some '(' ↔
      kept = [] ∨ kept.getLast? = some '(' := by
    rcases List.eq_nil_or_concat kept with rfl | ⟨init, c, rfl⟩
    · simp [Text.spell]
    · simp [List.getLast?_append]
  refine ⟨_, .added hlacks htrail ?_, ?_⟩
  · intro hlast
    rw [List.getLast?_append, hlast] at hcomma
    exact hcomma rfl
  · rw [hadd, separator]
    simp only [hends, List.append_assoc]
    rfl

namespace Item

variable {item first second : Item} {name rest rest' : Text}

theorem text_append_inj (heq : first.text name ++ rest = second.text name ++ rest') :
    first = second ∧ rest = rest' := by
  have hclose : first.opening ++ ')' :: (first.behind name ++ rest) =
      second.opening ++ ')' :: (second.behind name ++ rest') := by
    simpa [text] using heq
  obtain ⟨hopening, hbehind⟩ :=
    Text.append_mark_inj first.opening_closed second.opening_closed hclose
  have hline : (']' :: first.lead) ++ '\n' :: under first.lines (enumHead first.indent (name ++ rest)) =
      (']' :: second.lead) ++ '\n' ::
        under second.lines (enumHead second.indent (name ++ rest')) := by
    simpa [behind, under_append, enumHead] using hbehind
  obtain ⟨hlead, hunder⟩ := Text.append_mark_inj first.notin_lead second.notin_lead hline
  obtain ⟨hlines, hindent, hmore⟩ :=
    under_inj first.hashed first.indented second.hashed second.indented hunder
  refine ⟨?_, List.append_cancel_left hmore⟩
  have hderives : first.derives = second.derives := List.append_cancel_left hopening
  have hrest : first.lead = second.lead := (List.cons.inj hlead).2
  cases first
  cases second
  simp only at hderives hrest hlines hindent
  subst hderives hrest hlines hindent
  rfl

/-- The parts of a repaired item: it derives the column type too, and the line with the name of the
column type comes right before the enum. All else is as it was. -/
structure Gains (name : Text) (old new : Item) : Prop where
  derives : DerivesToo old.derives new.derives
  lead : new.lead = old.lead
  lines : new.lines = old.lines ++ [typeLine old.indent name]
  indent : new.indent = old.indent

theorem opening_within (item : Item) :
    Text.within "sqlx::Type".toList item.opening = columnType.within item.derives := by
  rw [opening, ← Text.spell_eq]
  exact Text.within_behind (by decide)

theorem deriveColumnType_gains (item : Item) (h : IsPlain name) :
    ∃ new, item.Gains name new ∧ deriveColumnType (item.text name) = new.text name := by
  rw [item.deriveColumnType_eq h, item.opening_within]
  by_cases hthere : columnType.within item.derives = true
  · refine ⟨item.typed h, ⟨.already hthere, rfl, rfl, rfl⟩, ?_⟩
    rw [if_pos hthere, text, typed_behind_eq]
    simp [opening, typed, Text.spell]
  · obtain ⟨args', hargs, hadd⟩ :=
      addColumnType_opening item.derives item.middle (Bool.eq_false_iff.mpr hthere)
    let derived : Item := { item with derives := args', closed := hargs.closed item.closed }
    refine ⟨derived.typed h, ⟨hargs, rfl, rfl, rfl⟩, ?_⟩
    rw [if_neg hthere, opening, hadd, text, typed_behind_eq]
    simp [opening, typed, derived, middle, Text.spell]

end Item

theorem Item.Gains.within_mark {old new : Item} {name : Text} (h : old.Gains name new) :
    (typeMark name).within (new.text name) = true := by
  rw [Text.within_iff_isInfix]
  refine List.IsInfix.trans ⟨old.indent ++ Text.spell "#[sqlx(",
    Text.spell ", rename_all = \"snake_case\"" ++ Text.spell ")]", rfl⟩ ?_
  refine ⟨new.opening ++ (')' :: ']' :: (new.lead ++ old.lines.flatMap ('\n' :: ·) ++ ['\n'])),
    '\n' :: enumHead new.indent name, ?_⟩
  simp [Item.text, Item.behind_eq, Item.middle, h.lines, typeLine, typeFront, Text.spell]

/-- A match for a name that ends with a letter is one without its surroundings too. No word goes on
behind it. -/
theorem Form.reads_enum_alone {name found rest : Text} {prev : Option Char}
    (hs : (enumShape name).settled = true) (he : (enumShape name).edged = true)
    (hlast : Text.wordy name.getLast? = true) (h : (enumShape name).Reads prev found rest) :
    (enumShape name).Reads none found [] := by
  have hrest : Text.wordy rest.head? = Text.wordy ([] : Text).head? := by
    obtain ⟨item, hitem, hedge⟩ := reads_enum h
    obtain ⟨c, hc, hword⟩ := (Option.any_eq_true _ _).mp hlast
    have hend : found.getLast? = some c := by
      rw [hitem, Item.text_eq, enumHead]
      simp [List.getLast?_append, List.getLast?_cons, hc]
    have hne : found ≠ [] := by
      intro hnil
      rw [hnil] at hend
      cases hend
    change (Text.wordy _ != Text.wordy rest.head?) = true at hedge
    rw [Text.lastFrom_eq_getLast? hne, hend] at hedge
    simpa [Text.wordy, hword] using hedge
  have hstart : (enumShape name).Reads none found rest := by
    obtain ⟨more, htext, hmore⟩ := reads_lit.mp h
    exact reads_lit.mpr ⟨more, htext, hmore⟩
  exact hstart.alike hs he (alike_edged rfl hrest)

namespace EnumForm

variable (form : EnumForm) {item text : Text}

def Matches (item : Text) : Prop := form.rule.matcher.find? item = some ⟨0, item.length⟩

instance : Decidable (form.Matches item) := inferInstanceAs (Decidable (_ = _))

theorem matcher_pattern :
    (Regex.ofText (enumPattern form.name) form.valid).pattern = Form.enumShape form.chars :=
  form.toForm.pattern_ofText

theorem matches_iff_hits :
    form.Matches item ↔ (Form.enumShape form.chars).Hits item ⟨0, item.length⟩ := by
  rw [← form.matcher_pattern]
  rfl

theorem width?_of_reads {prev : Option Char} {text rest : Text}
    (h : (Form.enumShape form.chars).Reads prev text rest) :
    (Form.enumShape form.chars).width? prev (text ++ rest) = some text.length := by
  refine Pattern.width?_of_reads h fun other more heq hother => ?_
  obtain ⟨first, rfl, -⟩ := Form.reads_enum h
  obtain ⟨second, rfl, -⟩ := Form.reads_enum hother
  rw [(Item.text_append_inj heq).1]

theorem matches_iff_reads :
    form.Matches item ↔ (Form.enumShape form.chars).Reads none item [] := by
  have hconsumes : (Form.enumShape form.chars).consumes = true := form.consumes
  rw [matches_iff_hits, hits_iff hconsumes form.settled]
  simp only [List.take_zero, List.drop_zero, Text.lastFrom, Nat.zero_add]
  constructor
  · rintro ⟨n, hwidth, rfl⟩
    simpa using reads_of_width? hwidth
  · intro h
    refine ⟨item.length, ?_, rfl⟩
    simpa using form.width?_of_reads h

theorem matches_of_mem_spans (hlast : Text.wordy form.chars.getLast? = true) {span : Span}
    (h : span ∈ form.rule.matcher.spans text) : form.Matches (span.slice text) := by
  obtain ⟨hit, hhit, rfl⟩ := List.mem_map.mp h
  rw [form.matcher_pattern] at hhit
  have hhits := hits_of_mem_findAll form.consumes form.settled hhit
  obtain ⟨n, hwidth, hstop⟩ := (hits_iff form.consumes form.settled).mp hhits
  have hslice : hit.span.slice text = (text.drop hit.span.start).take n := by
    rw [Span.slice, hstop, Nat.add_sub_cancel_left]
  rw [matches_iff_reads, hslice]
  exact Form.reads_enum_alone form.settled form.edged hlast (reads_of_width? hwidth)

theorem guard_of_mark (h : (typeMark form.chars).within text = true) :
    form.rule.guard.holds text = false := by
  rw [form.guard_holds, h]
  rfl

end EnumForm

def catalogEnums : List EnumForm :=
  [vulnerabilityStatus, vulnerabilitySeverity, assetType, reportType, reportStatus, reportFormat,
    pluginType]

theorem catalogEnums_rules :
    catalogEnums.map (·.rule) = vulnerabilityTypes.rules ++ assetTypes.rules ++ reportTypes.rules ++
      pluginTypes.rules := rfl

/-- The repair of an item that a rule matches in full keeps the item. Every line with an attribute stays
in its place, then comes the line with the name of the column type, indented like the enum, and then the
head of the enum. Only the arguments of the derive attribute may change, by the column type at their end.
A text with the repaired item in it is one that the rule leaves alone. -/
theorem enum_repair_keeps_item (form : EnumForm) {item : Text} (h : form.Matches item) :
    ∃ old new : Item, item = old.text form.chars ∧ deriveColumnType item = new.text form.chars ∧
      old.Gains form.chars new ∧ ∀ before behind,
        form.rule.guard.holds (before ++ (deriveColumnType item ++ behind)) = false := by
  obtain ⟨old, rfl, -⟩ := Form.reads_enum (form.matches_iff_reads.mp h)
  have hplain : IsPlain form.chars := form.plain
  obtain ⟨new, hgains, hnew⟩ := old.deriveColumnType_gains hplain
  refine ⟨old, new, rfl, hnew, hgains, fun before behind => form.guard_of_mark ?_⟩
  have hmark := hgains.within_mark
  rw [← hnew] at hmark
  exact Text.within_append_right (Text.within_append_left hmark behind) before

def derivedAsset : Text :=
  Text.spell "#[derive(Debug,\n    Clone, )]\r\n    #[serde(tag = \"a)]\")]\n    pub enum AssetType"

theorem enum_repair_keeps_item_asset :
    assetType.Matches derivedAsset ∧ ∃ old new : Item, derivedAsset = old.text assetType.chars ∧
      deriveColumnType derivedAsset = new.text assetType.chars ∧ old.Gains assetType.chars new ∧
        ∀ before behind, assetType.rule.guard.holds
          (before ++ (deriveColumnType derivedAsset ++ behind)) = false :=
  ⟨by decide +kernel, enum_repair_keeps_item assetType (by decide +kernel)⟩

theorem DerivesToo.occurrences {args args' : Text} (h : DerivesToo args args') :
    columnType.occurrences args' =
      columnType.occurrences args + if columnType.within args then 0 else 1 := by
  cases h with
  | already h => simp [h]
  | @added kept trail hlacks htrail hkept =>
    have hlast : columnType.getLast? = some 'e' := by decide
    have hone : columnType.occurrences columnType = 1 := by decide
    have hne : columnType ≠ [] := by decide
    rw [hlacks, Text.occurrences_trail hlast (Text.notin_of_class htrail (by decide)), separator]
    by_cases hempty : kept = []
    · rw [if_pos (.inl hempty), hempty]
      exact hone
    · by_cases hopen : kept.getLast? = some '('
      · obtain ⟨init, rfl⟩ := List.getLast?_eq_some_iff.mp hopen
        have hcut (behind : Text) : columnType.occurrences (init ++ '(' :: behind) =
            columnType.occurrences init + columnType.occurrences behind :=
          Text.occurrences_cut hne (by decide)
        rw [if_pos (.inr hopen), List.nil_append, List.append_assoc, List.singleton_append, hcut,
          hcut, hone]
        rfl
      · rw [if_neg (not_or.mpr ⟨hempty, hopen⟩)]
        exact Text.occurrences_cut hne (by decide : ',' ∉ columnType)

namespace Item

variable {name : Text}

theorem occurrences_text (item : Item) (name : Text) :
    columnType.occurrences (item.text name) = columnType.occurrences item.derives +
      (columnType.occurrences (']' :: item.middle) +
        columnType.occurrences (enumHead item.indent name)) := by
  have hne : columnType ≠ [] := by decide
  have hopening : item.opening = Text.spell "#[derive" ++ '(' :: item.derives := rfl
  rw [text, behind_eq, Text.occurrences_cut hne (by decide), hopening,
    Text.occurrences_cut hne (by decide), ← List.cons_append,
    Text.occurrences_cut hne (by decide)]
  have hfixed : columnType.occurrences (Text.spell "#[derive") = 0 := by decide
  rw [hfixed, Nat.zero_add]

/-- The repair adds the column type to an item unless the first derive attribute has it. -/
theorem Gains.occurrences {old new : Item} (h : old.Gains name new) (hname : IsPlain name) :
    columnType.occurrences (new.text name) =
      columnType.occurrences (old.text name) + if columnType.within old.derives then 0 else 1 := by
  have hmiddle : ']' :: new.middle = (']' :: old.middle) ++ '\n' :: typeLine old.indent name := by
    simp [middle, h.lead, h.lines]
  have hline : ':' ∉ typeLine old.indent name := by
    have hfront : ':' ∉ typeFront name := typeFront_closed hname (by decide) (by decide)
    have hindent : ':' ∉ old.indent := Text.notin_of_class old.indented (by decide)
    simp [typeLine, hfront, hindent]
  rw [occurrences_text, occurrences_text, h.derives.occurrences, hmiddle, h.indent,
    Text.occurrences_cut (by decide) (by decide),
    Text.occurrences_of_notin (c := ':') (by decide) hline]
  omega

/-- An item that has the column type at most once has it once after the repair, unless it has it behind
its first derive attribute. -/
theorem derived_once_iff (item : Item) (hname : IsPlain name)
    (hmost : columnType.occurrences (item.text name) ≤ 1) :
    columnType.occurrences (deriveColumnType (item.text name)) = 1 ↔
      (columnType.within (item.text name) = true → columnType.within item.derives = true) := by
  obtain ⟨new, hgains, hnew⟩ := item.deriveColumnType_gains hname
  have hzero : columnType.occurrences (item.text name) = 0 ↔
      columnType.within (item.text name) = false := Text.occurrences_eq_zero_iff
  rw [hnew, hgains.occurrences hname]
  by_cases hthere : columnType.within item.derives = true
  · have hin : columnType.within (item.text name) = true :=
      Text.within_append_left (Text.within_append_right hthere _) _
    have hpos : columnType.occurrences (item.text name) ≠ 0 := by
      rw [ne_eq, hzero, hin]
      decide
    simp only [hthere, if_true, Nat.add_zero, implies_true, iff_true]
    omega
  · rw [if_neg hthere, ← Bool.not_eq_false, ← hzero]
    constructor
    · intro hone hin
      omega
    · intro himp
      have hnone : columnType.occurrences (item.text name) = 0 :=
        Decidable.byContradiction fun hin => hthere (himp hin)
      omega

end Item

def derivedApart : Text :=
  Text.spell "#[derive(Debug)]\n#[derive(sqlx::Type)]\npub enum AssetType"

/-- What is derived in a second attribute is derived once more. -/
theorem derived_apart_twice :
    assetType.Matches derivedApart ∧ columnType.occurrences derivedApart = 1 ∧
      columnType.occurrences (deriveColumnType derivedApart) = 2 := by
  decide +kernel

end Recast.Catalog
