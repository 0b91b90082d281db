import Recast.Proofs.Catalog.Repairs
import Recast.Proofs.Pattern.Groups

/-! The repairs that keep parts of what they replace. The parts are the groups of the match, and a
template puts them into the new text. A count is a statement, and its match ends with the first
semicolon; the call that runs the migrations has to begin its line. -/

namespace Recast

namespace Pattern

/-- All matches end with a character that they have nowhere else. -/
def EndsOnce (pattern : Pattern) (last : Char) : Prop :=
  ∀ {prev : Option Char} {found rest : Text}, pattern.Reads prev found rest →
    ∃ front, found = front ++ [last] ∧ last ∉ front

section

variable {pattern : Pattern} {front : Text} {last : Char} (h : pattern.EndsOnce last)
  (hlast : last ∉ front)

include h hlast

/-- A match that reaches into a piece up to its only last character ends with the piece. -/
theorem stops_of_endsOnce
    (hno : ∀ {prev found rest}, pattern.Reads prev found rest → ¬ (front ++ [last]) <:+ found) :
    pattern.Stops (front ++ [last]) := by
  intro prev left inside rest tail _ hr heq
  refine Decidable.byContradiction fun hinside => ?_
  obtain ⟨body, hfound, hbody⟩ := h hr
  obtain ⟨inside, rfl, rfl⟩ := Text.concat_of_append hinside hfound
  have hclean : last ∉ inside := fun hmem => hbody (List.mem_append_right left hmem)
  have hcut : inside ++ last :: rest = front ++ last :: tail := by simpa using heq
  obtain ⟨rfl, -⟩ := Text.append_mark_inj hclean hlast hcut
  exact hno hr ⟨left, by simp⟩

theorem quiet_of_endsOnce
    (hno : ∀ {prev found rest}, pattern.Reads prev found rest → ¬ found <:+ front ++ [last])
    (prev : Option Char) : pattern.Quiet prev (front ++ [last]) := by
  intro left right tail heq hright
  refine width?_eq_none_iff_reads.mpr fun found rest hfound hr => ?_
  obtain ⟨body, rfl, hbody⟩ := h hr
  obtain ⟨right, rfl, hleft⟩ := Text.concat_of_append hright heq.symm
  have hclean : last ∉ right := fun hmem => hlast (hleft ▸ List.mem_append_right left hmem)
  have hcut : right ++ last :: tail = body ++ last :: rest := by simpa using hfound
  obtain ⟨rfl, -⟩ := Text.append_mark_inj hclean hbody hcut
  exact hno hr ⟨left, by rw [hleft, List.append_assoc]⟩

end

end Pattern

namespace Catalog

open Pattern

namespace Form

def little : Pattern := repeated (char (.neg (.single ';'))) ⟨0, none, true⟩

def countShape (binding : Text) : Pattern :=
  lit (Text.spell "let ") (lit binding (lit (Text.spell ": i64 = ")
    (seq (group 1 (lit (Text.spell "sqlx::query_scalar!(") (seq little (one ')'))))
      (seq blanks (lit (Text.spell ".fetch_one(")
        (seq (group 2 little) (lit [')'] (seq blanks (lit (Text.spell ".await")
          (seq (group 3 little) (lit ['?'] (one ';'))))))))))))

def assignedCount : Form where
  source := countPattern "assigned_vulns"
  pattern := countShape (Text.spell "assigned_vulns")

def associatedCount : Form where
  source := countPattern "associated_vulns"
  pattern := countShape (Text.spell "associated_vulns")

def migrations : Form where
  source := "(?m)^([ \\t]*)sqlx::migrate!\\(\"\\./migrations\"\\)".toList
      ++ "\\s*\\.run\\(&pool\\)\\s*\\.await\\?;".toList
  pattern :=
    seq (look (.lineStart .lf))
      (seq (group 1 indent)
        (lit (Text.spell "sqlx::migrate!(\"./migrations\")")
          (seq blanks (lit (Text.spell ".run(&pool)") (seq blanks
            (lit (Text.spell ".await?") (one ';')))))))

end Form

/-- The parts of a count that are kept: the query, the row that is asked for and what is done with
it. -/
structure Count where
  query : Text
  row : Text
  onward : Text

namespace Count

def Clean (count : Count) : Prop :=
  ';' ∉ count.query ∧ ';' ∉ count.row ∧ ';' ∉ count.onward

def front (count : Count) (binding : Text) : Text :=
  Text.spell "let " ++ (binding ++ (Text.spell " = " ++ (count.query ++
    (Text.spell "\n    .fetch_one(" ++ (count.row ++ (Text.spell ")\n    .await" ++ (count.onward ++
      Text.spell "?\n    .unwrap_or(0")))))))

end Count

theorem notin_others {c : Char} {least : Nat} {lazy : Bool} {prev : Option Char} {text rest : Text}
    (h : (repeated (char (.neg (.single c))) ⟨least, none, lazy⟩).Reads prev text rest) :
    c ∉ text := by
  intro hmem
  have hneg := (reads_many.mp h).2 c hmem
  rw [CharClass.has, Bool.not_eq_true', Bool.eq_false_iff] at hneg
  exact hneg (CharClass.has_single.mpr rfl)

theorem reads_little {prev : Option Char} {text rest : Text} :
    Form.little.Reads prev text rest ↔ ';' ∉ text := by
  refine ⟨notin_others, fun h => reads_many.mpr ⟨Nat.zero_le _, fun c hc => ?_⟩⟩
  rw [CharClass.has, Bool.not_eq_true', Bool.eq_false_iff]
  intro hsemicolon
  obtain rfl := CharClass.has_single.mp hsemicolon
  exact h hc

theorem reads_query {prev : Option Char} {text rest : Text} :
    (lit (Text.spell "sqlx::query_scalar!(") (seq Form.little (Form.one ')'))).Reads prev text
      rest ↔ ∃ inner, text = Text.spell "sqlx::query_scalar!(" ++ (inner ++ [')']) ∧ ';' ∉ inner := by
  rw [reads_lit]
  constructor
  · rintro ⟨more, rfl, hmore⟩
    obtain ⟨inner, last, rfl, hinner, hlast⟩ := reads_seq.mp hmore
    obtain ⟨c, rfl, hc⟩ := reads_char.mp hlast
    rw [CharClass.has_single.mp hc]
    exact ⟨inner, rfl, reads_little.mp hinner⟩
  · rintro ⟨inner, rfl, hinner⟩
    refine ⟨_, rfl, reads_seq.mpr ⟨inner, [')'], rfl, reads_little.mpr hinner, ?_⟩⟩
    exact reads_char.mpr ⟨')', rfl, CharClass.has_single.mpr rfl⟩

structure Count.Fits (count : Count) (blanks blanks' : Text) : Prop where
  called : ∃ inner, count.query = Text.spell "sqlx::query_scalar!(" ++ (inner ++ [')'])
  clean : count.Clean
  blank : ∀ c ∈ blanks, Text.isBlank c = true
  blank' : ∀ c ∈ blanks', Text.isBlank c = true

def Count.old (count : Count) (binding blanks blanks' : Text) : Text :=
  Text.spell "let " ++ (binding ++ (Text.spell ": i64 = " ++ (count.query ++ (blanks ++
    (Text.spell ".fetch_one(" ++ (count.row ++ ([')'] ++ (blanks' ++ (Text.spell ".await" ++
      (count.onward ++ ['?', ';']))))))))))

theorem count_ends {binding left rest : Text} {prev : Option Char} {spot : Spot}
    (h : spot ∈ (Form.countShape binding).ends (⟨left.length, prev, rest⟩, [])) :
    ∃ (count : Count) (blanks blanks' : Text), rest = count.old binding blanks blanks' ++ spot.1.rest ∧
      count.Fits blanks blanks' ∧ Kept (left ++ rest) spot.2 1 count.query ∧
        Kept (left ++ rest) spot.2 2 count.row ∧ Kept (left ++ rest) spot.2 3 count.onward := by
  obtain ⟨rest₁, hlet, w₁, h₁⟩ := mem_ends_fixed rfl h
  obtain ⟨rest₂, hbinding, w₂, h₂⟩ := mem_ends_fixed w₁ h₁
  obtain ⟨rest₃, htype, w₃, h₃⟩ := mem_ends_fixed w₂ h₂
  obtain ⟨query, rest₄, _, hquery, hreads, w₄, h₄, hkept, -⟩ := mem_ends_group (by decide) w₃ h₃
  obtain ⟨blanks, rest₅, hblanks, hblank, w₅, h₅⟩ := mem_ends_plain (by decide) w₄ h₄
  obtain ⟨rest₆, hfetch, w₆, h₆⟩ := mem_ends_fixed w₅ h₅
  obtain ⟨row, rest₇, _, hrow, hreads', w₇, h₇, hkept', hstill⟩ :=
    mem_ends_group (by decide) w₆ h₆
  obtain ⟨rest₈, hclose, w₈, h₈⟩ := mem_ends_fixed w₇ h₇
  obtain ⟨blanks', rest₉, hblanks', hblank', w₉, h₉⟩ := mem_ends_plain (by decide) w₈ h₈
  obtain ⟨rest₁₀, hawait, w₁₀, h₁₀⟩ := mem_ends_fixed w₉ h₉
  obtain ⟨onward, rest₁₁, _, honward, hreads'', w₁₁, h₁₁, hkept'', hstill'⟩ :=
    mem_ends_group (by decide) w₁₀ h₁₀
  obtain ⟨rest₁₂, hquestion, w₁₂, h₁₂⟩ := mem_ends_fixed w₁₁ h₁₁
  obtain ⟨last, hlast, hchar, hslots⟩ := mem_ends_last (by decide) h₁₂
  obtain ⟨c, rfl, hc⟩ := reads_char.mp hchar
  obtain rfl := CharClass.has_single.mp hc
  have hrest : rest = Count.old ⟨query, row, onward⟩ binding blanks blanks' ++ spot.1.rest := by
    rw [hlet, hbinding, htype, hquery, hblanks, hfetch, hrow, hclose, hblanks', hawait, honward,
      hquestion, hlast]
    simp [Count.old]
  obtain ⟨inner, rfl, hinner⟩ := reads_query.mp hreads
  have hclean : ';' ∉ Text.spell "sqlx::query_scalar!(" ++ (inner ++ [')']) := by
    have hopening : ';' ∉ Text.spell "sqlx::query_scalar!(" := by decide
    simp [hopening, hinner]
  rw [hslots]
  exact ⟨⟨_, row, onward⟩, blanks, blanks', hrest,
    ⟨⟨inner, rfl⟩, ⟨hclean, reads_little.mp hreads', reads_little.mp hreads''⟩,
      Form.reads_blanks hblank, Form.reads_blanks hblank'⟩,
    hstill' _ _ (by decide) (hstill _ _ (by decide) hkept), hstill' _ _ (by decide) hkept', hkept''⟩

namespace Count

variable {count : Count} {binding blanks blanks' : Text}

theorem Fits.old_eq (h : count.Fits blanks blanks') (hb : ';' ∉ binding) :
    ∃ front, count.old binding blanks blanks' = front ++ ['?', ';'] ∧ ';' ∉ front := by
  obtain ⟨-, ⟨hquery, hrow, honward⟩, hblank, hblank'⟩ := h
  refine ⟨Text.spell "let " ++ (binding ++ (Text.spell ": i64 = " ++ (count.query ++ (blanks ++
    (Text.spell ".fetch_one(" ++ (count.row ++ ([')'] ++ (blanks' ++ (Text.spell ".await" ++
      count.onward))))))))), by simp [old], ?_⟩
  have hblanks : ';' ∉ blanks := Text.notin_of_class hblank (by decide)
  have hblanks' : ';' ∉ blanks' := Text.notin_of_class hblank' (by decide)
  have hfixed : ';' ∉ Text.spell "let " ∧ ';' ∉ Text.spell ": i64 = " ∧
      ';' ∉ Text.spell ".fetch_one(" ∧ ';' ∉ Text.spell ".await" := by decide
  simp [hfixed, hb, hquery, hrow, honward, hblanks, hblanks']

theorem Clean.notin_front (h : count.Clean) (hb : ';' ∉ binding) : ';' ∉ count.front binding := by
  obtain ⟨hquery, hrow, honward⟩ := h
  have hfixed : ';' ∉ Text.spell "let " ∧ ';' ∉ Text.spell " = " ∧
      ';' ∉ Text.spell "\n    .fetch_one(" ∧ ';' ∉ Text.spell ")\n    .await" ∧
        ';' ∉ Text.spell "?\n    .unwrap_or(0" := by decide
  simp [front, hfixed, hb, hquery, hrow, honward]

end Count

theorem reads_count {binding : Text} {prev : Option Char} {found rest : Text} :
    (Form.countShape binding).Reads prev found rest ↔ ∃ (count : Count) (blanks blanks' : Text),
      count.Fits blanks blanks' ∧ found = count.old binding blanks blanks' := by
  constructor
  · rintro ⟨spot, h, hrest⟩
    obtain ⟨count, blanks, blanks', hold, hfits, -⟩ := @count_ends _ [] _ _ _ h
    rw [hrest] at hold
    exact ⟨count, blanks, blanks', hfits, List.append_cancel_right hold⟩
  · rintro ⟨⟨query, row, onward⟩, blanks, blanks', ⟨⟨inner, rfl⟩, ⟨hquery, hrow, honward⟩, hb, hb'⟩, rfl⟩
    have hinner : ';' ∉ inner := fun hmem => hquery (by simp [hmem])
    have hblanks {prev : Option Char} {text rest : Text} (h : ∀ c ∈ text, Text.isBlank c = true) :
        Form.blanks.Reads prev text rest := reads_many.mpr ⟨Nat.zero_le _, h⟩
    have hend {prev : Option Char} : (Form.one ';').Reads prev [';'] rest :=
      reads_char.mpr ⟨';', rfl, CharClass.has_single.mpr rfl⟩
    refine reads_lit.mpr ⟨_, rfl, reads_lit.mpr ⟨_, rfl, reads_lit.mpr ⟨_, rfl, ?_⟩⟩⟩
    refine reads_seq.mpr ⟨_, _, rfl, reads_group.mpr (reads_query.mpr ⟨inner, rfl, hinner⟩), ?_⟩
    refine reads_seq.mpr ⟨blanks, _, rfl, hblanks hb, reads_lit.mpr ⟨_, rfl, ?_⟩⟩
    refine reads_seq.mpr ⟨row, _, rfl, reads_group.mpr (reads_little.mpr hrow), ?_⟩
    refine reads_lit.mpr ⟨_, rfl, reads_seq.mpr ⟨blanks', _, rfl, hblanks hb', ?_⟩⟩
    refine reads_lit.mpr ⟨_, rfl, reads_seq.mpr ⟨onward, ['?', ';'], rfl, ?_, ?_⟩⟩
    · exact reads_group.mpr (reads_little.mpr honward)
    · exact reads_lit.mpr ⟨[';'], rfl, hend⟩

theorem reads_count_marks {binding : Text} (hb : ';' ∉ binding) {prev : Option Char}
    {found rest : Text} (h : (Form.countShape binding).Reads prev found rest) :
    ∃ front, found = front ++ ['?', ';'] ∧ ';' ∉ front := by
  obtain ⟨count, blanks, blanks', hfits, rfl⟩ := reads_count.mp h
  exact hfits.old_eq hb

theorem count_shut {binding front : Text} (hb : ';' ∉ binding) (hfront : ';' ∉ front) :
    (Form.countShape binding).Shut (front ++ [')', ';']) := by
  have hclean : ';' ∉ front ++ [')'] := by simpa using hfront
  have honce : (Form.countShape binding).EndsOnce ';' := by
    intro prev found rest hr
    obtain ⟨body, rfl, hbody⟩ := reads_count_marks hb hr
    exact ⟨body ++ ['?'], by simp, by simpa using hbody⟩
  have hpiece : front ++ [')', ';'] = (front ++ [')']) ++ [';'] := by simp
  have hmarks {first second before : Text}
      (heq : before ++ (first ++ [')', ';']) = second ++ ['?', ';']) : False := by
    rw [← List.append_assoc] at heq
    have := (List.append_inj' heq rfl).2
    exact absurd this (by decide)
  refine ⟨by simp, ?_, ?_⟩
  · rw [hpiece]
    refine stops_of_endsOnce honce hclean ?_
    rintro prev found rest hr ⟨before, heq⟩
    obtain ⟨body, rfl, -⟩ := reads_count_marks hb hr
    rw [← hpiece] at heq
    exact hmarks heq
  · rw [hpiece]
    refine quiet_of_endsOnce honce hclean ?_
    rintro prev found rest hr ⟨before, heq⟩
    obtain ⟨body, rfl, -⟩ := reads_count_marks hb hr
    rw [← hpiece] at heq
    exact @hmarks front (before ++ body) [] (by rw [List.nil_append, List.append_assoc, heq])

def countTail : Text :=
  Text.spell " = $\x7b1\x7d\n    .fetch_one($\x7b2\x7d)\n    .await$\x7b3\x7d?\n    .unwrap_or(0);"

theorem countTemplate_eq (binding : String) :
    countTemplate binding = (Text.spell "let " ++ binding.toList) ++ countTail := by
  rw [countTail, Text.spell_eq, Text.spell_eq]
  rfl

theorem countTail_pieces :
    Template.pieces countTail.length countTail =
      (Text.spell " = ").map Template.Piece.plain ++ Template.Piece.numbered 1 ::
        ((Text.spell "\n    .fetch_one(").map Template.Piece.plain ++ Template.Piece.numbered 2 ::
          ((Text.spell ")\n    .await").map Template.Piece.plain ++ Template.Piece.numbered 3 ::
            (Text.spell "?\n    .unwrap_or(0);").map Template.Piece.plain)) := by
  decide

theorem expand_count {binding : String} (hn : '$' ∉ binding.toList) {regex : Regex} {hit : Match}
    {text : Text} {count : Count}
    (hquery : (hit.group? 1).map (·.slice text) = some count.query)
    (hrow : (hit.group? 2).map (·.slice text) = some count.row)
    (honward : (hit.group? 3).map (·.slice text) = some count.onward) :
    Template.expand regex (countTemplate binding) hit text =
      count.front binding.toList ++ [')', ';'] := by
  have hplain : '$' ∉ Text.spell "let " ++ binding.toList := by
    have hlet : '$' ∉ Text.spell "let " := by decide
    simp [hlet, hn]
  rw [Template.expand, countTemplate_eq, Template.pieces_append _ hplain, countTail_pieces]
  simp only [List.flatMap_append, List.flatMap_cons, Template.flatMap_plain, Template.Piece.render,
    hquery, hrow, honward, Option.getD_some]
  simp [Count.front, Text.spell]

theorem count_settles (form : Form) {set : RuleSet} {binding : String}
    {valid : (Regex.read? form.source).isSome = true} {rule : Rule} (hset : set.rules = [rule])
    (hm : rule.matcher = .regex (.ofText form.source valid))
    (ha : rule.action = .replace (.template (countTemplate binding)) .all)
    (hg : rule.guard = .always) (hp : form.pattern = Form.countShape binding.toList)
    (hdollar : '$' ∉ binding.toList) (hsemicolon : ';' ∉ binding.toList)
    (hlook : form.pattern.lookless = true) : set.Settles := by
  refine form.settles hm hset fun text => form.not_occurs_apply hm (fun _ fresh =>
    ∃ count : Count, count.Clean ∧ fresh = count.front binding.toList ++ [')', ';']) hg ha ?_ ?_
  · rintro front found after hit htext hhit -
    rw [hp] at hhit
    obtain ⟨spot, hspot, rfl⟩ := mem_ends_of_matchAt? hhit
    obtain ⟨count, _, _, -, hfits, hquery, hrow, honward⟩ := count_ends hspot
    rw [← htext] at hquery hrow honward
    exact ⟨count, hfits.clean, expand_count hdollar (hquery.group? (by decide))
      (hrow.group? (by decide)) (honward.group? (by decide))⟩
  · rintro found _ ⟨count, hclean, rfl⟩
    refine ⟨?_, blind_of_lookless form.settled hlook⟩
    rw [hp]
    exact count_shut hsemicolon (hclean.notin_front hsemicolon)

theorem teamCount_settles : teamCount.Settles :=
  count_settles Form.assignedCount rfl rfl rfl rfl rfl (by decide) (by decide) (by decide)

theorem assetCount_settles : assetCount.Settles :=
  count_settles Form.associatedCount rfl rfl rfl rfl rfl (by decide) (by decide) (by decide)

def migrateCall : Text := Text.spell "sqlx::migrate!(\"./migrations\")"

def migrateText (indent blanks blanks' : Text) : Text :=
  indent ++ (migrateCall ++ (blanks ++ (Text.spell ".run(&pool)" ++ (blanks' ++
    Text.spell ".await?;"))))

theorem migrations_ends {left rest : Text} {prev : Option Char} {spot : Spot}
    (h : spot ∈ Form.migrations.pattern.ends (⟨left.length, prev, rest⟩, [])) :
    ∃ indent blanks blanks', rest = migrateText indent blanks blanks' ++ spot.1.rest ∧
      (∀ c ∈ indent, isIndent c = true) ∧ (∀ c ∈ blanks, CharClass.blank.has c = true) ∧
      (∀ c ∈ blanks', CharClass.blank.has c = true) ∧
      LineBreak.lf.beginsLine prev rest.head? = true ∧ Kept (left ++ rest) spot.2 1 indent := by
  obtain ⟨start, rest₁, hrest, hlook, w₁, h₁⟩ := mem_ends_plain (by decide) rfl h
  obtain ⟨rfl, hholds⟩ := reads_look.mp hlook
  obtain ⟨indent, rest₂, _, hindent, hreads, w₂, h₂, hkept, -⟩ := mem_ends_group (by decide) w₁ h₁
  obtain ⟨rest₃, hcall, w₃, h₃⟩ := mem_ends_fixed w₂ h₂
  obtain ⟨blanks, rest₄, hblanks, hblank, w₄, h₄⟩ := mem_ends_plain (by decide) w₃ h₃
  obtain ⟨rest₅, hrun, w₅, h₅⟩ := mem_ends_fixed w₄ h₄
  obtain ⟨blanks', rest₆, hblanks', hblank', w₆, h₆⟩ := mem_ends_plain (by decide) w₅ h₅
  obtain ⟨rest₇, hawait, w₇, h₇⟩ := mem_ends_fixed w₆ h₆
  obtain ⟨last, hlast, hchar, hslots⟩ := mem_ends_last (by decide) h₇
  obtain ⟨c, rfl, hc⟩ := reads_char.mp hchar
  obtain rfl := CharClass.has_single.mp hc
  rw [List.nil_append] at hrest
  subst rest
  refine ⟨indent, blanks, blanks', ?_, Form.reads_indent.mp hreads, Form.reads_blanks hblank,
    Form.reads_blanks hblank', hholds, hslots ▸ hkept⟩
  rw [hindent, hcall, hblanks, hrun, hblanks', hawait, hlast]
  simp [migrateText, migrateCall, Text.spell]

theorem reads_migrations {prev : Option Char} {found rest : Text}
    (h : Form.migrations.pattern.Reads prev found rest) :
    ∃ indent blanks blanks', found = migrateText indent blanks blanks' ∧
      (∀ c ∈ indent, isIndent c = true) ∧ (∀ c ∈ blanks, CharClass.blank.has c = true) ∧
      (∀ c ∈ blanks', CharClass.blank.has c = true) ∧
      LineBreak.lf.beginsLine prev none = true := by
  obtain ⟨spot, h, hrest⟩ := h
  obtain ⟨indent, blanks, blanks', hold, hindent, hblanks, hblanks', hline, -⟩ :=
    @migrations_ends [] _ _ _ h
  rw [hrest] at hold
  refine ⟨indent, blanks, blanks', List.append_cancel_right hold, hindent, hblanks, hblanks', ?_⟩
  cases prev with
  | none => rfl
  | some c => exact hline

def migrateComment : Text :=
  Text.spell "// sqlx::migrate!(\"./migrations\").run(&pool).await?"

theorem migrations_endsOnce : Form.migrations.pattern.EndsOnce ';' := by
  intro prev found rest hr
  obtain ⟨indent, blanks, blanks', rfl, hindent, hblanks, hblanks', -⟩ := reads_migrations hr
  refine ⟨indent ++ (migrateCall ++ (blanks ++ (Text.spell ".run(&pool)" ++ (blanks' ++
    Text.spell ".await?")))), by simp [migrateText, Text.spell], ?_⟩
  have hi : ';' ∉ indent := Text.notin_of_class hindent (by decide)
  have hb : ';' ∉ blanks := Text.notin_of_class hblanks (by decide)
  have hb' : ';' ∉ blanks' := Text.notin_of_class hblanks' (by decide)
  have hfixed : ';' ∉ migrateCall ∧ ';' ∉ Text.spell ".run(&pool)" ∧
      ';' ∉ Text.spell ".await?" := by decide
  simp [hfixed, hi, hb, hb']

theorem count_slash_migrations {prev : Option Char} {found rest : Text}
    (h : Form.migrations.pattern.Reads prev found rest) : found.count '/' = 1 := by
  obtain ⟨indent, blanks, blanks', rfl, hindent, hblanks, hblanks', -⟩ := reads_migrations h
  have hi : indent.count '/' = 0 :=
    List.count_eq_zero.mpr (Text.notin_of_class hindent (by decide))
  have hb : blanks.count '/' = 0 := List.count_eq_zero.mpr (Text.notin_of_class hblanks (by decide))
  have hb' : blanks'.count '/' = 0 := List.count_eq_zero.mpr (Text.notin_of_class hblanks' (by decide))
  have hfixed : migrateCall.count '/' = 1 ∧ (Text.spell ".run(&pool)").count '/' = 0 ∧
      (Text.spell ".await?;").count '/' = 0 := by decide
  simp [migrateText, List.count_append, hi, hb, hb', hfixed]

/-- The comment is shut: it has more slashes than the call, and its line begins with them. -/
theorem migrations_shut {indent : Text} (h : ∀ c ∈ indent, isIndent c = true) :
    Form.migrations.pattern.Shut ((indent ++ migrateComment) ++ [';']) := by
  have hclean {c : Char} (hi : isIndent c = false) (hc : c ∉ migrateComment) :
      c ∉ indent ++ migrateComment := by
    simp [Text.notin_of_class h hi, hc]
  refine ⟨by simp, ?_, ?_⟩
  · refine stops_of_endsOnce migrations_endsOnce (hclean (by decide) (by decide)) ?_
    intro prev found rest hr hsuffix
    have hle := hsuffix.sublist.count_le '/'
    have hthree : 3 ≤ (indent ++ migrateComment ++ [';']).count '/' := by
      have hfixed : migrateComment.count '/' = 3 := by decide
      simp [List.count_append, hfixed]
    rw [count_slash_migrations hr] at hle
    omega
  · intro prev left right tail heq hne
    refine width?_eq_none_iff_reads.mpr fun found rest hfound hr => ?_
    obtain ⟨indent', blanks, blanks', rfl, hindent, -, -, hline⟩ := reads_migrations hr
    cases left with
    | nil =>
      rw [List.nil_append] at heq
      have hcut : indent ++ '/' :: (migrateComment.tail ++ ([';'] ++ tail)) =
          indent' ++ 's' :: (migrateCall.tail ++ ((blanks ++ (Text.spell ".run(&pool)" ++ (blanks' ++
            Text.spell ".await?;"))) ++ rest)) := by
        rw [← heq] at hfound
        simpa [migrateText, migrateComment, migrateCall, Text.spell] using hfound
      exact absurd (Text.append_cons_inj h (by decide) hindent (by decide) hcut).2.1 (by decide)
    | cons c left =>
      -- no line begins behind a character of the comment
      have hbreak : '\n' ∉ c :: left := by
        intro hmem
        have hmem' : '\n' ∈ (indent ++ migrateComment) ++ [';'] := by
          rw [heq]
          exact List.mem_append_left right hmem
        rcases List.mem_append.mp hmem' with hmem' | hmem'
        · exact hclean (by decide) (by decide) hmem'
        · exact absurd hmem' (by decide)
      rw [Text.lastFrom_eq_getLast? (by simp), List.getLast?_eq_some_getLast (by simp)] at hline
      have hlast : (c :: left).getLast (by simp) = '\n' := of_decide_eq_true hline
      exact hbreak (hlast ▸ List.getLast_mem (by simp))

theorem expand_migrations {regex : Regex} {hit : Match} {text indent : Text}
    (hindent : (hit.group? 1).map (·.slice text) = some indent) :
    Template.expand regex
        (Text.spell "$\x7b1\x7d// sqlx::migrate!(\"./migrations\").run(&pool).await?;") hit text =
      (indent ++ migrateComment) ++ [';'] := by
  have hpieces : Template.pieces
      (Text.spell "$\x7b1\x7d// sqlx::migrate!(\"./migrations\").run(&pool).await?;").length
      (Text.spell "$\x7b1\x7d// sqlx::migrate!(\"./migrations\").run(&pool).await?;") =
      .numbered 1 :: (migrateComment ++ [';']).map .plain := by
    decide
  rw [Template.expand, hpieces, List.flatMap_cons, Template.flatMap_plain, Template.Piece.render,
    hindent, Option.getD_some, List.append_assoc]

theorem disableMigrations_settles : disableMigrations.Settles := by
  refine Form.migrations.settles rfl rfl fun text => Form.migrations.not_occurs_apply rfl
    (fun found fresh => (∃ prev rest, Form.migrations.pattern.Reads prev found rest) ∧
      ∃ indent, (∀ c ∈ indent, isIndent c = true) ∧ fresh = (indent ++ migrateComment) ++ [';'])
    rfl rfl ?_ ?_
  · rintro front found after hit htext hhit hspan
    have hreads := reads_of_hit hhit hspan
    obtain ⟨spot, hspot, rfl⟩ := mem_ends_of_matchAt? hhit
    obtain ⟨indent, -, -, -, hindent, -, -, -, hkept⟩ := migrations_ends hspot
    rw [← htext] at hkept
    exact ⟨⟨_, _, hreads⟩, indent, hindent, expand_migrations (hkept.group? (by decide))⟩
  · rintro found _ ⟨⟨prev, rest, hreads⟩, indent, hindent, rfl⟩
    refine ⟨migrations_shut hindent, blind_of_lined (by decide) (by decide) fun prev => ?_⟩
    obtain ⟨front, rfl, -⟩ := migrations_endsOnce hreads
    simp only [Text.lastFrom_append]
    rfl

end Catalog

end Recast
