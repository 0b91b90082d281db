import Recast.Proofs.Catalog.AuthAccess
import Recast.Proofs.Pattern.Groups

/-! What it does to a text to import a name from the auth module: a line is added, an entry is put into
a group, or a single name becomes a group. After that the pattern for the import of the name occurs,
so the name is not imported again. -/

namespace Recast

namespace Catalog

open Pattern

def authModule : Text := Text.spell "use crate::auth::"

inductive Joined (entry : Text) : Text → Text → Prop where
  | group (front back : Text) :
    Joined entry (front ++ (authModule ++ '\x7b' :: back))
      (front ++ (authModule ++ '\x7b' :: (entry ++ back)))
  | single (front : Text) {name : Text} (back : Text) (h : IsName name) :
    Joined entry (front ++ (authModule ++ (name ++ ';' :: back)))
      (front ++ (authModule ++ '\x7b' :: (entry ++ (name ++ '\x7d' :: ';' :: back))))

namespace Form

variable (form : Form) {rule : Rule} {text : Text}
  {valid : (Regex.read? form.source).isSome = true}

/-- A rule that replaces the first match leaves the text alone or fills in its template there. -/
theorem apply_first_cases {template : Text}
    (hm : rule.matcher = .regex (.ofText form.source valid))
    (ha : rule.action = .replace (.template template) .first) :
    rule.apply text = text ∨ ∃ before found after hit,
      form.pattern.First none text before found after ∧
        form.pattern.matchAt? ⟨before.length, Text.lastFrom none before, found ++ after⟩ = some hit ∧
          rule.apply text = before ++ (Template.expand (.ofText form.source valid) template hit text
            ++ after) := by
  by_cases hg : rule.guard.holds text = true
  · by_cases ho : form.pattern.occurs none text = true
    · obtain ⟨before, found, after, hfirst⟩ := exists_first text ho
      obtain ⟨hit, hhit, happly⟩ := Rule.apply_firstMatch hm ha form.pattern_ofText form.settled
        form.consumes (hfirst.reads.ne_nil form.consumes) hg hfirst
      exact .inr ⟨before, found, after, hit, hfirst, hhit, happly⟩
    · exact .inl (form.apply_of_not_occurs hm (by simpa using ho))
  · exact .inl (Rule.apply_of_guard_false (by simpa using hg))

end Form

section

variable {rule : Rule} {entry text : Text}

theorem dollar_notin_opening (h : '$' ∉ entry) : '$' ∉ authModule ++ '\x7b' :: entry := by
  have hopening : '$' ∉ authModule ++ ['\x7b'] := by decide
  simp only [List.mem_append, List.mem_cons, not_or] at hopening ⊢
  exact ⟨hopening.1, hopening.2.1, h⟩

/-- A rule that opens groups of the auth module with an entry joins the entry to a group. -/
theorem joined_of_group (hentry : '$' ∉ entry)
    {valid : (Regex.read? Form.authOpening.source).isSome = true}
    (hm : rule.matcher = .regex (.ofText Form.authOpening.source valid))
    (ha : rule.action = .replace (.template (authModule ++ '\x7b' :: entry)) .first) :
    rule.apply text = text ∨ Joined entry text (rule.apply text) := by
  rcases Form.authOpening.apply_first_cases hm ha with h | ⟨before, found, after, hit, hf, _, h⟩
  · exact .inl h
  · have hplain := dollar_notin_opening hentry
    obtain ⟨brace, rfl, hbrace⟩ := reads_lit.mp hf.reads
    obtain ⟨c, rfl, hc⟩ := reads_char.mp hbrace
    right
    rw [h, Template.expand_plain _ _ _ _ hplain, hf.split, CharClass.has_single.mp hc]
    have hjoined : Joined entry (before ++ (authModule ++ '\x7b' :: after))
        (before ++ (authModule ++ '\x7b' :: (entry ++ after))) := .group before after
    simpa [authModule] using hjoined

theorem expand_single {regex : Regex} {hit : Match} {name : Text} (hentry : '$' ∉ entry)
    (hname : (hit.group? 1).map (·.slice text) = some name) :
    Template.expand regex (authModule ++ '\x7b' :: (entry ++ Text.spell "$\x7b1\x7d\x7d;")) hit text
      = authModule ++ '\x7b' :: (entry ++ (name ++ ['\x7d', ';'])) := by
  have hplain := dollar_notin_opening hentry
  have hsplit : authModule ++ '\x7b' :: (entry ++ Text.spell "$\x7b1\x7d\x7d;") =
      (authModule ++ '\x7b' :: entry) ++ Text.spell "$\x7b1\x7d\x7d;" := by simp
  have hpieces : Template.pieces (Text.spell "$\x7b1\x7d\x7d;").length
      (Text.spell "$\x7b1\x7d\x7d;") = [.numbered 1, .plain '\x7d', .plain ';'] := by decide
  rw [Template.expand, hsplit, Template.pieces_append _ hplain, hpieces, List.flatMap_append,
    Template.flatMap_plain]
  simp [Template.Piece.render, hname]

/-- A rule that makes single names of the auth module groups with an entry joins the entry to a
name. -/
theorem joined_of_single (hentry : '$' ∉ entry)
    {valid : (Regex.read? Form.authName.source).isSome = true}
    (hm : rule.matcher = .regex (.ofText Form.authName.source valid))
    (ha : rule.action = .replace
      (.template (authModule ++ '\x7b' :: (entry ++ Text.spell "$\x7b1\x7d\x7d;"))) .first) :
    rule.apply text = text ∨ Joined entry text (rule.apply text) := by
  rcases Form.authName.apply_first_cases hm ha with h | ⟨before, found, after, hit, hf, hhit, h⟩
  · exact .inl h
  · obtain ⟨spot, hspot, hheld⟩ := mem_ends_of_matchAt? hhit
    obtain ⟨rest₁, hopening, w₁, h₁⟩ := mem_ends_fixed hf.split hspot
    obtain ⟨name, rest₂, _, hname, hreads, w₂, h₂, hkept, -⟩ := mem_ends_group (by decide) w₁ h₁
    obtain ⟨last, hlast, hchar, hslots⟩ := mem_ends_last (by decide) h₂
    obtain ⟨c, rfl, hc⟩ := reads_char.mp hchar
    obtain rfl := CharClass.has_single.mp hc
    obtain ⟨hpositive, hword⟩ := reads_many.mp hreads
    have hisName : IsName name := ⟨List.length_pos_iff.mp hpositive, hword⟩
    have hgroup : (hit.group? 1).map (·.slice text) = some name := by
      rw [← hslots] at hkept
      rw [hheld]
      exact hkept.group? (by decide)
    have hcut : found ++ after = (authModule ++ (name ++ [';'])) ++ spot.1.rest := by
      rw [hopening, hname, hlast]
      simp [authModule]
    -- the match is as long as the import, so the import is the match
    have hlength : found.length = (authModule ++ (name ++ [';'])).length := by
      obtain ⟨covered, hcovered, hpast, -⟩ := mem_ends hspot
      obtain rfl : covered = authModule ++ (name ++ [';']) :=
        List.append_cancel_right (hcovered.symm.trans hcut)
      obtain ⟨n, hn, heq⟩ := width?_of_matchAt? hhit
      rw [hf.width] at hn
      rw [hheld] at heq
      have hstop : spot.1.pos = before.length + n := (Span.mk.inj heq).2
      simp only [hpast, Cursor.past] at hstop
      have := Option.some.inj hn
      omega
    obtain rfl := (List.append_inj hcut hlength).1
    have hjoined : Joined entry (before ++ (authModule ++ (name ++ ';' :: after)))
        (before ++ (authModule ++ '\x7b' :: (entry ++ (name ++ '\x7d' :: ';' :: after)))) :=
      .single before after hisName
    right
    rw [h, expand_single hentry hgroup, hf.split]
    simpa using hjoined

end

section

variable {name text out : Text}

theorem IsName.reads_iff (h : IsName name) {prev : Option Char} {text rest : Text} :
    (lit name Form.wordEdge).Reads prev text rest ↔
      text = name ∧ Text.wordy rest.head? = false := by
  have hedge (prev : Option Char) (rest : Text) :
      (Look.wordEdge .unicode).holds ⟨0, Text.lastFrom prev name, rest⟩ = true ↔
        Text.wordy rest.head? = false := by
    rw [holds_wordEdge, h.wordy_last]
    simp
  rw [reads_lit]
  constructor
  · rintro ⟨more, rfl, hmore⟩
    obtain ⟨rfl, hlook⟩ := reads_look.mp hmore
    exact ⟨List.append_nil name, (hedge prev rest).mp hlook⟩
  · rintro ⟨rfl, hrest⟩
    exact ⟨[], (List.append_nil text).symm, reads_look.mpr ⟨rfl, (hedge prev rest).mpr hrest⟩⟩

theorem IsName.reads_whole_iff (h : IsName name) {prev : Option Char} {text rest : Text} :
    (seq Form.wordEdge (lit name Form.wordEdge)).Reads prev text rest ↔
      text = name ∧ Text.wordy prev = false ∧ Text.wordy rest.head? = false := by
  have hedge : (Look.wordEdge .unicode).holds ⟨0, prev, name ++ rest⟩ = true ↔
      Text.wordy prev = false := by
    rw [holds_wordEdge, h.wordy]
    simp
  rw [reads_seq]
  constructor
  · rintro ⟨left, right, rfl, hlook, hname⟩
    obtain ⟨rfl, hprev⟩ := reads_look.mp hlook
    obtain ⟨rfl, hrest⟩ := h.reads_iff.mp hname
    exact ⟨rfl, hedge.mp hprev, hrest⟩
  · rintro ⟨rfl, hprev, hrest⟩
    exact ⟨[], text, rfl, reads_look.mpr ⟨rfl, hedge.mpr hprev⟩, h.reads_iff.mpr ⟨rfl, hrest⟩⟩

theorem IsName.imports_group (h : IsName name) (front back : Text) :
    (Form.authImport name).occurs none
      (front ++ (authModule ++ '\x7b' :: (name ++ Text.spell ", " ++ back))) = true := by
  refine (occurs_iff _ _ _).mpr ⟨front, authModule ++ '\x7b' :: name, Text.spell ", " ++ back,
    by simp, reads_lit.mpr ⟨'\x7b' :: name, rfl, reads_alt.mpr (.inr ?_)⟩⟩
  refine reads_lit.mpr ⟨name, rfl, reads_seq.mpr ⟨[], name, rfl, ?_, ?_⟩⟩
  · exact reads_many.mpr ⟨Nat.le_refl _, by simp⟩
  · have hopen : Text.wordy (some '\x7b') = false := by decide
    have hcomma : Text.wordy (some ',') = false := by decide
    exact h.reads_whole_iff.mpr ⟨rfl, hopen, hcomma⟩

theorem Joined.imports (h : IsName name) (hj : Joined (name ++ Text.spell ", ") text out) :
    (Form.authImport name).occurs none out = true := by
  cases hj with
  | group front back => exact h.imports_group front back
  | single front back _ => exact h.imports_group front _

theorem IsName.imports_line (h : IsName name) (front back : Text) :
    (Form.authImport name).occurs none
      (front ++ (authModule ++ name ++ Text.spell ";\n" ++ back)) = true := by
  have hsemicolon : Text.wordy (some ';') = false := by decide
  refine (occurs_iff _ _ _).mpr ⟨front, authModule ++ name, Text.spell ";\n" ++ back, by simp, ?_⟩
  exact reads_lit.mpr ⟨name, rfl, reads_alt.mpr (.inl (h.reads_iff.mpr ⟨rfl, hsemicolon⟩))⟩

end

end Catalog

end Recast
