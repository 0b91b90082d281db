import Recast.Proofs.Catalog.ImportEdits
import Recast.Proofs.Catalog.Nesting
import Recast.Proofs.OneShot

/-! Adding `Extension` to the first group that is imported from the framework. The group ends where its
braces are balanced, at any depth, while the guard of the rule looks for `Extension` with a pattern
that looks through one level of nested groups. Where groups are not nested deeper, the pattern finds
what the rule has added, and the rule comes to rest. Where they are, it does not, and the rule fires on
whatever it gives. -/

namespace Recast

namespace Catalog

open Pattern

def frameworkUse : Text := Text.spell "use axum::"

def extensionName : Text := Text.spell "Extension"

def grouped (inner : Text) : Text := frameworkUse ++ '\x7b' :: (inner ++ ['\x7d'])

structure FrameworkGroup (text before inner after : Text) : Prop where
  split : text = before ++ (frameworkUse ++ '\x7b' :: (inner ++ '\x7d' :: after))
  first : ∀ front back, text = front ++ (frameworkUse ++ '\x7b' :: back) →
    before.length ≤ front.length
  closed : Text.opened '\x7b' '\x7d' 0 inner = some 0

theorem braces_differ : '\x7b' ≠ '\x7d' := by decide

theorem braceless_use : braceless frameworkUse = true := by decide

section

variable {text before inner after : Text}

theorem reads_frameworkOpening {prev : Option Char} {rest : Text} :
    Form.frameworkOpening.pattern.Reads prev text rest ↔ text = frameworkUse ++ ['\x7b'] := by
  refine reads_lit.trans ?_
  constructor
  · rintro ⟨_, rfl, hbrace⟩
    obtain ⟨c, rfl, hc⟩ := reads_char.mp hbrace
    rw [CharClass.has_single.mp hc]
    rfl
  · rintro rfl
    exact ⟨['\x7b'], rfl, reads_char.mpr ⟨'\x7b', rfl, by decide⟩⟩

theorem length_le_of_first {found : Text}
    (h : Form.frameworkOpening.pattern.First none text before found after) :
    ∀ front back, text = front ++ (frameworkUse ++ '\x7b' :: back) →
      before.length ≤ front.length := by
  intro front back heq
  refine Nat.le_of_not_lt fun hlt => ?_
  have hsplit := h.split.symm.trans heq
  rcases List.append_eq_append_iff.mp hsplit with ⟨gap, rfl, -⟩ | ⟨gap, rfl, hgap⟩
  · rw [List.length_append] at hlt
    omega
  · have hne : gap ≠ [] := by
      rintro rfl
      simp at hlt
    refine width?_eq_none_iff_reads.mp (h.earlier front gap rfl hne) (frameworkUse ++ ['\x7b']) back
      ?_ (reads_frameworkOpening.mpr rfl)
    rw [← hgap]
    simp

theorem FrameworkGroup.opening (h : FrameworkGroup text before inner after) :
    Form.frameworkOpening.pattern.First none text before (frameworkUse ++ ['\x7b'])
      (inner ++ '\x7d' :: after) where
  split := by rw [h.split]; simp
  width := by
    refine width?_of_reads (reads_frameworkOpening.mpr rfl) ?_
    intro first more _ hreads
    rw [reads_frameworkOpening.mp hreads]
  earlier := by
    rintro left right rfl hne
    refine width?_eq_none_iff_reads.mpr fun first more heq hreads => hne ?_
    rw [reads_frameworkOpening.mp hreads] at heq
    have hle := h.first left more (by rw [h.split, List.append_assoc]; simpa using heq)
    rw [List.length_append] at hle
    exact List.eq_nil_of_length_eq_zero (by omega)

theorem closing?_grouped {back : Text} {stop : Nat} :
    Matcher.closing? 0 0 (frameworkUse ++ '\x7b' :: back) = some stop ↔
      ∃ inner after, back = inner ++ '\x7d' :: after ∧ stop = (grouped inner).length ∧
        Text.opened '\x7b' '\x7d' 0 inner = some 0 := by
  have hplain := ne_brace_of_braceless braceless_use
  have hopen (pos : Nat) : Matcher.closing? 0 pos ('\x7b' :: back) =
      Matcher.closing? 1 (pos + 1) back := by
    rw [Matcher.closing?, if_pos rfl]
  have hlength (inner : Text) : (grouped inner).length =
      0 + frameworkUse.length + 1 + inner.length + 1 := by
    simp [grouped]
    omega
  simp only [Matcher.closing?_append hplain, hopen, Matcher.closing?_eq_some_iff, hlength]

/-- Either there is no item or the first one is the first group from the framework. -/
theorem items_or_group (text : Text) :
    Form.frameworkOpening.pattern.itemsFrom 0 0 none text = [] ∨
      ∃ before inner after, FrameworkGroup text before inner after := by
  by_cases ho : Form.frameworkOpening.pattern.occurs none text = true
  · obtain ⟨before, found, after, hfirst⟩ := exists_first text ho
    obtain rfl := reads_frameworkOpening.mp hfirst.reads
    have hopening : frameworkUse ++ ['\x7b'] ++ after = frameworkUse ++ '\x7b' :: after := by simp
    cases hclose : Matcher.closing? 0 0 (frameworkUse ++ ['\x7b'] ++ after) with
    | none => exact .inl (hfirst.itemsFrom_of_unclosed hclose 0)
    | some stop =>
      rw [hopening] at hclose
      obtain ⟨inner, after, rfl, -, hclosed⟩ := closing?_grouped.mp hclose
      refine .inr ⟨before, inner, after, ?_, length_le_of_first hfirst, hclosed⟩
      rw [hfirst.split, hopening]
  · exact .inl (itemsFrom_eq_nil (by simpa using ho))

theorem FrameworkGroup.closing? (h : FrameworkGroup text before inner after) :
    Matcher.closing? 0 0 (frameworkUse ++ ['\x7b'] ++ (inner ++ '\x7d' :: after)) =
      some (grouped inner).length := by
  rw [List.append_assoc]
  exact closing?_grouped.mpr ⟨inner, after, rfl, rfl, h.closed⟩

theorem FrameworkGroup.find? (h : FrameworkGroup text before inner after) :
    (Matcher.braced frameworkGroup).find? text =
      some ⟨before.length, before.length + (grouped inner).length⟩ := by
  obtain ⟨more, hitems⟩ := h.opening.itemsFrom h.closing? 0
  have hspans : (Matcher.braced frameworkGroup).spans text =
      Form.frameworkOpening.pattern.itemsFrom 0 0 none text :=
    Rule.spans_braced Form.frameworkOpening.pattern_ofText Form.frameworkOpening.settled
      Form.frameworkOpening.consumes text
  change ((Matcher.braced frameworkGroup).spans text).head? = _
  rw [hspans, hitems, Nat.zero_add]
  rfl

theorem FrameworkGroup.slice (h : FrameworkGroup text before inner after) :
    (Span.mk before.length (before.length + (grouped inner).length)).slice text =
      grouped inner := by
  have hsplit : text = before ++ (grouped inner ++ after) := by
    rw [h.split]
    simp [grouped]
  rw [hsplit]
  exact Span.slice_found before (grouped inner) after

variable {rule : Rule} {f : Text → Text} (hm : rule.matcher = .braced frameworkGroup)
  (ha : rule.action = .replace (.computed f) .first)

include hm ha

theorem FrameworkGroup.apply (h : FrameworkGroup text before inner after)
    (hg : rule.guard.holds text = true) :
    rule.apply text = before ++ (f (grouped inner) ++ after) := by
  have hitem : frameworkUse ++ ['\x7b'] ++ (inner ++ '\x7d' :: after) = grouped inner ++ after := by
    simp [grouped]
  rw [Form.frameworkOpening.apply_firstItem hm ha hg h.opening h.closing?, hitem, List.take_left,
    List.drop_left, List.append_assoc]
  rfl

theorem apply_group_cases (text : Text) :
    rule.apply text = text ∨ ∃ before inner after, FrameworkGroup text before inner after ∧
      rule.guard.holds text = true ∧ rule.apply text = before ++ (f (grouped inner) ++ after) := by
  by_cases hg : rule.guard.holds text = true
  · rcases items_or_group text with hnone | ⟨before, inner, after, h⟩
    · exact .inl (Rule.apply_of_no_items hm Form.frameworkOpening.pattern_ofText
        Form.frameworkOpening.settled Form.frameworkOpening.consumes hnone)
    · exact .inr ⟨before, inner, after, h, hg, h.apply hm ha hg⟩
  · exact .inl (Rule.apply_of_guard_false (by simpa using hg))

end

def isLoose (c : Char) : Bool := Text.isBlank c || c == ','

theorem isWord_of_isLoose {c : Char} (h : isLoose c = true) : Text.isWord c = false := by
  rcases Bool.or_eq_true_iff.mp h with hblank | hcomma
  · exact Text.isWord_of_isBlank hblank
  · rw [eq_of_beq hcomma]
    decide

theorem ne_brace_of_isLoose {c : Char} (h : isLoose c = true) : c ≠ '\x7b' ∧ c ≠ '\x7d' := by
  constructor
  · rintro rfl
    exact absurd h (by decide)
  · rintro rfl
    exact absurd h (by decide)

/-- What becomes of the list of a group: white space and a comma at its end give way to a comma, white
space, `Extension`, and then white space and a comma or nothing. -/
structure Appended (inner kept trail gap last : Text) : Prop where
  split : inner = kept ++ trail
  gap_ne : gap ≠ []
  loose : ∀ c ∈ trail ++ (gap ++ last), isLoose c = true

def withExtension (kept gap last : Text) : Text := kept ++ ',' :: (gap ++ (extensionName ++ last))

def extended (before kept gap last after : Text) : Text :=
  before ++ (grouped (withExtension kept gap last) ++ after)

theorem extended_eq (before kept gap last after : Text) :
    extended before kept gap last after = before ++ (frameworkUse ++ '\x7b' :: kept) ++
      (',' :: (gap ++ (extensionName ++ last)) ++ '\x7d' :: after) := by
  simp [extended, grouped, withExtension]

/-- The end of a text that has a group goes with the list of the group, up to its brace. -/
theorem exists_kept {front inner first trail : Text} (h : '\x7b' ∉ trail)
    (heq : front ++ '\x7b' :: inner = first ++ trail) :
    ∃ kept, inner = kept ++ trail ∧ first = front ++ '\x7b' :: kept := by
  obtain ⟨kept, rfl⟩ := Text.suffix_of_notin h heq
  refine ⟨kept, rfl, List.append_cancel_right (heq.symm.trans ?_)⟩
  rw [List.append_assoc]
  rfl

theorem stripLast?_eq_some_iff {mark : Char} {text front : Text} :
    Text.stripLast? mark text = some front ↔ text = front ++ [mark] := by
  rw [Text.stripLast?]
  constructor
  · intro h
    split at h
    next hlast =>
      obtain ⟨start, rfl⟩ := List.getLast?_eq_some_iff.mp hlast
      rw [← Option.some.inj h, List.dropLast_concat]
    next => cases h
  · rintro rfl
    simp

theorem appendExtension_grouped (inner : Text) :
    ∃ kept trail gap last, Appended inner kept trail gap last ∧
      appendExtension (grouped inner) = grouped (withExtension kept gap last) := by
  have hbrace {trail : Text} (h : ∀ c ∈ trail, isLoose c = true) : '\x7b' ∉ trail := fun hmem =>
    (ne_brace_of_isLoose (h _ hmem)).1 rfl
  have hstrip : Text.stripLast? '\x7d' (grouped inner) = some (frameworkUse ++ '\x7b' :: inner) :=
    stripLast?_eq_some_iff.mpr (by simp [grouped])
  obtain ⟨blanks, htrim, hblanks⟩ :=
    Text.dropEndWhile_append Text.isBlank (frameworkUse ++ '\x7b' :: inner)
  have hloose : ∀ c ∈ blanks, isLoose c = true := fun c hc => by
    rw [isLoose, hblanks c hc, Bool.true_or]
  obtain ⟨entries, rfl, hentries⟩ := exists_kept (hbrace hloose) htrim
  -- the list without white space at its end, and without a comma there
  obtain ⟨kept, comma, rfl, hcomma, hkept⟩ : ∃ kept comma, entries = kept ++ comma ∧
      (∀ c ∈ comma, isLoose c = true) ∧
        (Text.stripLast? ',' (frameworkUse ++ '\x7b' :: entries)).getD
          (frameworkUse ++ '\x7b' :: entries) = frameworkUse ++ '\x7b' :: kept := by
    cases hlast : Text.stripLast? ',' (frameworkUse ++ '\x7b' :: entries) with
    | none => exact ⟨entries, [], by simp, by simp, rfl⟩
    | some front =>
      obtain ⟨kept, rfl, rfl⟩ :=
        exists_kept (by decide) (stripLast?_eq_some_iff.mp hlast)
      exact ⟨kept, [','], rfl, List.all_eq_true.mp (by decide), rfl⟩
  have happended (gap last : Text) (hne : gap ≠ []) (hnew : ∀ c ∈ gap ++ last, isLoose c = true) :
      Appended (kept ++ comma ++ blanks) kept (comma ++ blanks) gap last := by
    refine ⟨List.append_assoc _ _ _, hne, fun c hc => ?_⟩
    rcases List.mem_append.mp hc with hc | hc
    · exact (List.mem_append.mp hc).elim (hcomma c) (hloose c)
    · exact hnew c hc
  have happend : appendExtension (grouped (kept ++ comma ++ blanks)) =
      if (frameworkUse ++ '\x7b' :: kept).contains '\n' then
        (frameworkUse ++ '\x7b' :: kept) ++ ",\n    ".toList ++ "Extension".toList ++
          ",\n\x7d".toList
      else
        (frameworkUse ++ '\x7b' :: kept) ++ ", ".toList ++ "Extension".toList ++
          "\x7d".toList := by
    rw [appendExtension, appendToGroup, hstrip]
    simp only [Text.trimEnd, hentries, hkept]
  rw [happend]
  split
  · refine ⟨kept, comma ++ blanks, Text.spell "\n    ", Text.spell ",\n",
      happended _ _ (by decide) (List.all_eq_true.mp (by decide)), ?_⟩
    simp [grouped, withExtension, extensionName, Text.spell]
  · refine ⟨kept, comma ++ blanks, Text.spell " ", [],
      happended _ _ (by decide) (List.all_eq_true.mp (by decide)), ?_⟩
    simp [grouped, withExtension, extensionName, Text.spell]

/-- What stands behind `use axum::` where `Extension` counts as imported: the name itself, or a group
that names it behind entries that are nested one level deep. -/
inductive NamesExtension : Text → Prop where
  | alone {rest : Text} (h : Text.wordy rest.head? = false) :
      NamesExtension (extensionName ++ rest)
  | listed {names rest : Text} (hnames : Text.Nested '\x7b' '\x7d' 1 names)
      (hstart : Text.wordy (Text.lastFrom (some '\x7b') names) = false)
      (h : Text.wordy rest.head? = false) :
      NamesExtension ('\x7b' :: (names ++ (extensionName ++ rest)))

theorem isName_extension : IsName extensionName := ⟨by decide, List.all_eq_true.mp (by decide)⟩

theorem occurs_extensionImport (text : Text) :
    Form.extensionImport.pattern.occurs none text = true ↔
      ∃ front back, text = front ++ (frameworkUse ++ back) ∧ NamesExtension back := by
  have hnest {prev : Option Char} {text rest : Text} :
      (Form.nested '\x7b' '\x7d' (Form.between '\x7b' '\x7d')).Reads prev text rest ↔
        Text.Nested '\x7b' '\x7d' 1 text :=
    Form.reads_nest braces_differ 1
  rw [occurs_iff]
  constructor
  · rintro ⟨front, found, after, rfl, hreads⟩
    obtain ⟨more, rfl, halt⟩ := reads_lit.mp hreads
    refine ⟨front, more ++ after, by simp [frameworkUse], ?_⟩
    rcases reads_alt.mp halt with hname | hgroup
    · obtain ⟨rfl, hrest⟩ := isName_extension.reads_iff.mp hname
      exact .alone hrest
    · obtain ⟨_, rfl, hseq⟩ := reads_lit.mp hgroup
      obtain ⟨names, _, rfl, hnames, hname⟩ := reads_seq.mp hseq
      obtain ⟨rfl, hstart, hrest⟩ := isName_extension.reads_whole_iff.mp hname
      have hlisted := NamesExtension.listed (hnest.mp hnames) hstart hrest
      simpa using hlisted
  · rintro ⟨front, back, rfl, hback⟩
    cases hback with
    | @alone rest h =>
      refine ⟨front, frameworkUse ++ extensionName, rest, by simp, ?_⟩
      exact reads_lit.mpr ⟨extensionName, rfl,
        reads_alt.mpr (.inl (isName_extension.reads_iff.mpr ⟨rfl, h⟩))⟩
    | @listed names rest hnames hstart h =>
      refine ⟨front, frameworkUse ++ '\x7b' :: (names ++ extensionName), rest, by simp, ?_⟩
      refine reads_lit.mpr ⟨'\x7b' :: (names ++ extensionName), rfl, reads_alt.mpr (.inr ?_)⟩
      refine reads_lit.mpr ⟨names ++ extensionName, rfl, ?_⟩
      exact reads_seq.mpr ⟨names, extensionName, rfl, hnest.mpr hnames,
        isName_extension.reads_whole_iff.mpr ⟨rfl, hstart, h⟩⟩

/-- How many braces are open at once in the first group from the framework, its own brace included. -/
def groupDepth (text : Text) : Nat :=
  match (Matcher.braced frameworkGroup).find? text with
  | none => 0
  | some span => Text.peak '\x7b' '\x7d' 0 (span.slice text)

section

variable {text before inner after kept trail gap last : Text}

theorem FrameworkGroup.groupDepth_eq (h : FrameworkGroup text before inner after) :
    groupDepth text = Text.peak '\x7b' '\x7d' 0 inner + 1 := by
  rw [groupDepth, h.find?]
  simp only [h.slice]
  rw [grouped, Text.peak_plain (ne_brace_of_braceless braceless_use), Text.peak_opening,
    Text.peak_append braces_differ (Text.opened_add braces_differ h.closed 1),
    Text.peak_add braces_differ h.closed 1, Text.peak_closing braces_differ, Text.peak_nil]
  omega

theorem FrameworkGroup.first_behind (h : FrameworkGroup text before inner after) (rest : Text) :
    ∀ front back, before ++ (frameworkUse ++ '\x7b' :: rest) =
      front ++ (frameworkUse ++ '\x7b' :: back) → before.length ≤ front.length := by
  intro front back heq
  refine Nat.le_of_not_lt fun hlt => ?_
  have hfront : front ++ (frameworkUse ++ ['\x7b']) <+:
      before ++ (frameworkUse ++ '\x7b' :: rest) := ⟨back, by rw [heq]; simp⟩
  have hbefore : before ++ (frameworkUse ++ ['\x7b']) <+:
      before ++ (frameworkUse ++ '\x7b' :: rest) := ⟨rest, by simp⟩
  obtain ⟨more, hmore⟩ := List.prefix_of_prefix_length_le hfront hbefore (by
    simp only [List.length_append]
    omega)
  have hle := h.first front (more ++ (inner ++ '\x7d' :: after)) (by
    have := congrArg (· ++ (inner ++ '\x7d' :: after)) hmore.symm
    rw [h.split]
    simpa using this)
  omega

/-- Behind `Extension`, what ends a group is as good as any text that does not go on with a word. -/
theorem wordy_loose (h : ∀ c ∈ trail, isLoose c = true) :
    Text.wordy (trail ++ '\x7d' :: after).head? = false := by
  cases trail with
  | nil =>
    change Text.isWord '\x7d' = false
    decide
  | cons c trail => exact isWord_of_isLoose (h c List.mem_cons_self)

namespace Appended

variable (h : Appended inner kept trail gap last)

include h

theorem loose_trail : ∀ c ∈ trail, isLoose c = true := fun c hc =>
  h.loose c (List.mem_append_left _ hc)

theorem loose_gap : ∀ c ∈ gap, isLoose c = true := fun c hc =>
  h.loose c (List.mem_append_right _ (List.mem_append_left _ hc))

theorem loose_last : ∀ c ∈ last, isLoose c = true := fun c hc =>
  h.loose c (List.mem_append_right _ (List.mem_append_right _ hc))

theorem plain_trail : ∀ c ∈ trail, c ≠ '\x7b' ∧ c ≠ '\x7d' := fun c hc =>
  ne_brace_of_isLoose (h.loose_trail c hc)

theorem plain_gap : ∀ c ∈ ',' :: gap, c ≠ '\x7b' ∧ c ≠ '\x7d' :=
  List.forall_mem_cons.mpr ⟨by decide, fun c hc => ne_brace_of_isLoose (h.loose_gap c hc)⟩

theorem plain_added : ∀ c ∈ ',' :: (gap ++ (extensionName ++ last)), c ≠ '\x7b' ∧ c ≠ '\x7d' := by
  have hname : braceless extensionName = true := by decide
  refine List.forall_mem_cons.mpr ⟨by decide, fun c hc => ?_⟩
  rcases List.mem_append.mp hc with hc | hc
  · exact ne_brace_of_isLoose (h.loose_gap c hc)
  · rcases List.mem_append.mp hc with hc | hc
    · exact ne_brace_of_braceless hname c hc
    · exact ne_brace_of_isLoose (h.loose_last c hc)

theorem text_eq (hgroup : FrameworkGroup text before inner after) :
    text = before ++ (frameworkUse ++ '\x7b' :: kept) ++ (trail ++ '\x7d' :: after) := by
  rw [hgroup.split, h.split]
  simp

theorem opened_kept (hclosed : Text.opened '\x7b' '\x7d' 0 inner = some 0) :
    Text.opened '\x7b' '\x7d' 0 kept = some 0 := by
  rw [h.split] at hclosed
  exact (Text.opened_append_plain braces_differ h.plain_trail).mp hclosed

theorem peak_kept (hclosed : Text.opened '\x7b' '\x7d' 0 inner = some 0) :
    Text.peak '\x7b' '\x7d' 0 inner = Text.peak '\x7b' '\x7d' 0 kept := by
  rw [h.split]
  exact Text.peak_append_plain braces_differ h.plain_trail (h.opened_kept hclosed)

theorem nested_kept {depth : Nat} :
    Text.Nested '\x7b' '\x7d' depth inner ↔ Text.Nested '\x7b' '\x7d' depth kept := by
  rw [h.split]
  exact Text.nested_append_plain braces_differ h.plain_trail

theorem group (hgroup : FrameworkGroup text before inner after) :
    FrameworkGroup (extended before kept gap last after) before (withExtension kept gap last)
      after where
  split := by simp [extended, grouped]
  first := by
    have hsplit : extended before kept gap last after =
        before ++ (frameworkUse ++ '\x7b' :: (withExtension kept gap last ++ '\x7d' :: after)) := by
      simp [extended, grouped]
    rw [hsplit]
    exact hgroup.first_behind _
  closed := (Text.opened_append_plain braces_differ h.plain_added).mpr (h.opened_kept hgroup.closed)

theorem groupDepth_eq (hgroup : FrameworkGroup text before inner after) :
    groupDepth (extended before kept gap last after) = groupDepth text := by
  rw [(h.group hgroup).groupDepth_eq, hgroup.groupDepth_eq, h.peak_kept hgroup.closed, withExtension,
    Text.peak_append_plain braces_differ h.plain_added (h.opened_kept hgroup.closed)]

/-- Where groups are nested one level deep, the pattern for the import finds what has been added. -/
theorem occurs_of_shallow (before after : Text) (hshallow : Text.Nested '\x7b' '\x7d' 1 inner) :
    Form.extensionImport.pattern.occurs none
      (extended before kept gap last after) = true := by
  have hnames : Text.Nested '\x7b' '\x7d' 1 (kept ++ ',' :: gap) :=
    (Text.nested_append_plain braces_differ h.plain_gap).mpr (h.nested_kept.mp hshallow)
  have hstart : Text.wordy (Text.lastFrom (some '\x7b') (kept ++ ',' :: gap)) = false := by
    rw [Text.lastFrom_append, Text.lastFrom, Text.lastFrom_eq_getLast? h.gap_ne,
      List.getLast?_eq_some_getLast h.gap_ne]
    exact isWord_of_isLoose (h.loose_gap _ (List.getLast_mem h.gap_ne))
  refine (occurs_extensionImport _).mpr ⟨before, '\x7b' :: ((kept ++ ',' :: gap) ++
    (extensionName ++ (last ++ '\x7d' :: after))), ?_, .listed hnames hstart (wordy_loose h.loose_last)⟩
  rw [extended_eq]
  simp

end Appended

/-- An opening that is followed by the list of the first group up to its brace is the opening of that
group: the list has no brace that is left open. -/
theorem eq_kept_of_opening {front more : Text} {k : Nat}
    (hkept : Text.opened '\x7b' '\x7d' 0 kept = some 0)
    (hmore : Text.opened '\x7b' '\x7d' 0 more = some k) (hle : before.length ≤ front.length)
    (heq : before ++ (frameworkUse ++ '\x7b' :: kept) = front ++ (frameworkUse ++ '\x7b' :: more)) :
    more = kept := by
  rcases Nat.lt_or_ge more.length kept.length with hlt | hge
  · have hmost : '\x7b' :: more <:+ before ++ (frameworkUse ++ '\x7b' :: kept) :=
      ⟨front ++ frameworkUse, by rw [heq]; simp⟩
    have hleast : kept <:+ before ++ (frameworkUse ++ '\x7b' :: kept) :=
      ⟨before ++ (frameworkUse ++ ['\x7b']), by simp⟩
    obtain ⟨passed, rfl⟩ := List.suffix_of_suffix_length_le hmost hleast hlt
    obtain ⟨j, -, hopened⟩ := Text.opened_of_append braces_differ hkept
    rw [Text.opened_opening, ← Nat.zero_add (j + 1), Text.opened_add braces_differ hmore] at hopened
    simp at hopened
  · have hlength := congrArg List.length heq
    simp only [List.length_append, List.length_cons] at hlength
    have hsame := (List.append_inj heq (by omega)).2
    exact (List.cons.inj (List.append_cancel_left hsame)).2.symm

/-- What names `Extension` up to a comma does so before any other text that goes on without a word. Or
it is a group that goes on beyond the comma, so it is nested one level deep up to there. -/
theorem NamesExtension.up_to_comma {more back rest : Text} (h : NamesExtension back)
    (heq : back = more ++ ',' :: rest) :
    (∀ other : Text, Text.wordy other.head? = false → NamesExtension (more ++ other)) ∨
      ∃ names k, more = '\x7b' :: names ∧ Text.opened '\x7b' '\x7d' 0 names = some k ∧
        Text.peak '\x7b' '\x7d' 0 names ≤ 1 := by
  have hend (name : Text) {other : Text} (hwordy : Text.wordy (name ++ ',' :: rest).head? = false)
      (hother : Text.wordy other.head? = false) : Text.wordy (name ++ other).head? = false := by
    cases name with
    | nil => exact hother
    | cons c name => exact hwordy
  cases h with
  | @alone tail hwordy =>
    have hcut : more ++ ',' :: rest = [] ++ (extensionName ++ tail) := heq.symm
    rcases Text.cut_of_notin (by decide) hcut with ⟨name, rfl, rfl⟩ | ⟨_, hnil, _⟩
    · refine .inl fun other hother => ?_
      rw [List.nil_append, List.append_assoc]
      exact .alone (hend name hwordy hother)
    · simp at hnil
  | @listed names tail hnames hstart hwordy =>
    cases more with
    | nil => cases heq
    | cons c more =>
      obtain ⟨rfl, hcut⟩ := List.cons.inj heq
      have hcomma : ',' ∉ extensionName := by decide
      rcases Text.cut_of_notin hcomma hcut.symm with ⟨name, rfl, rfl⟩ | ⟨passed, rfl, _⟩
      · refine .inl fun other hother => ?_
        have hlisted := NamesExtension.listed hnames hstart (hend name hwordy hother)
        simpa using hlisted
      · obtain ⟨k, hopened, hrest⟩ := Text.opened_of_append braces_differ hnames.1
        have hpeak := hnames.2
        rw [Text.peak_append braces_differ hopened] at hpeak
        exact .inr ⟨more, k, rfl, hopened, by omega⟩

theorem Appended.use_behind (h : Appended inner kept trail gap last) {passed back : Text}
    (heq : gap ++ (extensionName ++ last) ++ '\x7d' :: after = passed ++ (frameworkUse ++ back)) :
    ∃ more, after = more ++ (frameworkUse ++ back) := by
  have hloose {chars : Text} (hall : ∀ c ∈ chars, isLoose c = true) : 'u' ∉ chars := fun hmem =>
    absurd (hall 'u' hmem) (by decide)
  have hadded : 'u' ∉ gap ++ (extensionName ++ (last ++ ['\x7d'])) := by
    have hname : 'u' ∉ extensionName := by decide
    simp only [List.mem_append, not_or]
    exact ⟨hloose h.loose_gap, hname, hloose h.loose_last, by decide⟩
  have hsplit : gap ++ (extensionName ++ (last ++ ['\x7d'])) ++ after =
      passed ++ 'u' :: (frameworkUse.tail ++ back) := by
    have huse : frameworkUse = 'u' :: frameworkUse.tail := rfl
    rw [huse] at heq
    simpa using heq
  obtain ⟨more, rfl⟩ := Text.prefix_of_notin hadded hsplit
  rw [List.append_assoc (gap ++ _)] at hsplit
  exact ⟨more, List.append_cancel_left hsplit⟩

/-- Where groups are nested deeper, the pattern for the import finds nothing that it did not find
before. What reaches from an opening to what has been added would have to look through all of the first
group. -/
theorem Appended.not_occurs_of_deep (h : Appended inner kept trail gap last)
    (hgroup : FrameworkGroup text before inner after)
    (hdeep : ¬ Text.Nested '\x7b' '\x7d' 1 inner)
    (hno : Form.extensionImport.pattern.occurs none text = false) :
    Form.extensionImport.pattern.occurs none
      (extended before kept gap last after) = false := by
  have himpossible (front : Text) {back : Text} (heq : text = front ++ (frameworkUse ++ back))
      (hback : NamesExtension back) : False := by
    rw [(occurs_extensionImport text).mpr ⟨front, back, heq, hback⟩] at hno
    cases hno
  refine Bool.eq_false_iff.mpr fun hyes => ?_
  obtain ⟨front, back, heq, hback⟩ := (occurs_extensionImport _).mp hyes
  rw [extended_eq, List.cons_append] at heq
  have hcomma : ',' ∉ frameworkUse := by decide
  rcases Text.cut_of_notin hcomma heq with ⟨more, hfront, hmore⟩ | ⟨passed, rfl, hrest⟩
  · rcases hback.up_to_comma hmore with hother | ⟨names, k, rfl, hopened, hpeak⟩
    · have himported := hother (trail ++ '\x7d' :: after) (wordy_loose h.loose_trail)
      refine himpossible front ?_ himported
      rw [h.text_eq hgroup, hfront]
      simp
    · have hkept := h.opened_kept hgroup.closed
      have hle : before.length ≤ front.length := by
        refine hgroup.first_behind (kept ++ []) front names ?_
        rw [List.append_nil, hfront]
      obtain rfl := eq_kept_of_opening hkept hopened hle hfront
      exact hdeep (h.nested_kept.mpr ⟨hkept, hpeak⟩)
  · obtain ⟨more, rfl⟩ := h.use_behind hrest
    refine himpossible (before ++ (frameworkUse ++ '\x7b' :: kept) ++ (trail ++ '\x7d' :: more)) ?_
      hback
    rw [h.text_eq hgroup]
    simp

theorem Appended.within_use (h : Appended inner kept trail gap last)
    (hgroup : FrameworkGroup text before inner after)
    (huse : Text.within (Text.spell "Extension(") text = true) :
    Text.within (Text.spell "Extension(") (extended before kept gap last after) = true := by
  have hparen : '(' ∉ trail := fun hmem => absurd (h.loose_trail _ hmem) (by decide)
  rw [h.text_eq hgroup, ← List.append_assoc] at huse
  rw [extended_eq]
  rcases Text.within_cut (by decide) huse with hfirst | hafter
  · exact Text.within_append_left (Text.within_trim rfl hparen hfirst) _
  · have hbehind := Text.within_append_right hafter ['\x7d']
    exact Text.within_append_right (Text.within_append_right hbehind _) _

theorem Appended.ne_text (h : Appended inner kept trail gap last)
    (hgroup : FrameworkGroup text before inner after) :
    extended before kept gap last after ≠ text := by
  intro heq
  rw [extended_eq, h.text_eq hgroup] at heq
  have hadded := List.append_cancel_right (List.append_cancel_left heq)
  have hmem : 'E' ∈ trail := by
    rw [← hadded]
    simp [extensionName, Text.spell]
  exact absurd (h.loose_trail 'E' hmem) (by decide)

end

/-- The guard asks for a use of `Extension` and for a text that does not import it. -/
theorem importExtensionGrouped_guard (text : Text) :
    importExtensionGrouped.guard.holds text =
      (Text.within (Text.spell "Extension(") text &&
        !Form.extensionImport.pattern.occurs none text) := by
  have hguard : importExtensionGrouped.guard =
      .all [.contains "Extension(".toList, extensionUnimported] := rfl
  rw [hguard, Text.spell_eq, ← extensionUnimported_holds]
  simp [Guard.holds, Guard.allHold]

theorem importExtensionGrouped_fired {text out : Text}
    (h : importExtensionGrouped.fire? text = some out) :
    ∃ before inner after kept trail gap last, FrameworkGroup text before inner after ∧
      Appended inner kept trail gap last ∧ importExtensionGrouped.guard.holds text = true ∧
      out = extended before kept gap last after := by
  rw [Rule.fire?_eq] at h
  split at h
  next => cases h
  next hne =>
    have hmatcher : importExtensionGrouped.matcher = .braced frameworkGroup := rfl
    have haction : importExtensionGrouped.action = .replace (.computed appendExtension) .first := rfl
    rcases apply_group_cases hmatcher haction text with
      hsame | ⟨before, inner, after, hgroup, hg, happly⟩
    · exact absurd hsame hne
    · obtain ⟨kept, trail, gap, last, happended, hextended⟩ := appendExtension_grouped inner
      refine ⟨before, inner, after, kept, trail, gap, last, hgroup, happended, hg, ?_⟩
      rw [extended, ← hextended, ← happly]
      exact (Option.some.inj h).symm

theorem importExtensionGrouped_fires {text before inner after : Text}
    (hgroup : FrameworkGroup text before inner after)
    (hg : importExtensionGrouped.guard.holds text = true) :
    importExtensionGrouped.fire? text =
      some (before ++ (appendExtension (grouped inner) ++ after)) := by
  have hmatcher : importExtensionGrouped.matcher = .braced frameworkGroup := rfl
  have haction : importExtensionGrouped.action = .replace (.computed appendExtension) .first := rfl
  obtain ⟨kept, trail, gap, last, happended, hextended⟩ := appendExtension_grouped inner
  have hne := happended.ne_text hgroup
  rw [extended, ← hextended] at hne
  rw [Rule.fire?_eq, hgroup.apply hmatcher haction hg, if_neg hne]

theorem extensionUnimported_of_guard {text : Text}
    (h : importExtensionGrouped.guard.holds text = true) :
    Form.extensionImport.pattern.occurs none text = false := by
  rw [importExtensionGrouped_guard, Bool.and_eq_true] at h
  simpa using h.2

/-- After the rule has fired, `Extension` counts as imported exactly if groups are nested at most one
level deep within the group that has been extended. -/
theorem importExtensionGrouped_recognised_iff {text out : Text}
    (h : importExtensionGrouped.fire? text = some out) :
    extensionUnimported.holds out = false ↔ groupDepth text ≤ 2 := by
  obtain ⟨before, inner, after, kept, trail, gap, last, hgroup, happended, hg, rfl⟩ :=
    importExtensionGrouped_fired h
  rw [extensionUnimported_holds, hgroup.groupDepth_eq, Bool.not_eq_false']
  by_cases hshallow : Text.Nested '\x7b' '\x7d' 1 inner
  · have hpeak := hshallow.2
    exact iff_of_true (happended.occurs_of_shallow before after hshallow) (by omega)
  · have hno := happended.not_occurs_of_deep hgroup hshallow (extensionUnimported_of_guard hg)
    refine iff_of_false (Bool.eq_false_iff.mp hno) fun hle => hshallow ⟨hgroup.closed, by omega⟩

/-- Where groups are nested deeper, the rule fires on what it gave, and groups are nested as deep
there. -/
theorem importExtensionGrouped_fires_again {text out : Text}
    (h : importExtensionGrouped.fire? text = some out) (hdeep : 2 < groupDepth text) :
    (∃ again, importExtensionGrouped.fire? out = some again) ∧ groupDepth out = groupDepth text := by
  have hunimported : extensionUnimported.holds out = true := by
    rw [← Bool.not_eq_false, importExtensionGrouped_recognised_iff h]
    omega
  obtain ⟨before, inner, after, kept, trail, gap, last, hgroup, happended, hg, rfl⟩ :=
    importExtensionGrouped_fired h
  refine ⟨?_, happended.groupDepth_eq hgroup⟩
  rw [importExtensionGrouped_guard, Bool.and_eq_true] at hg
  have hguard : importExtensionGrouped.guard.holds
      (extended before kept gap last after) = true := by
    rw [extensionUnimported_holds] at hunimported
    rw [importExtensionGrouped_guard, hunimported, happended.within_use hgroup hg.1]
    rfl
  exact ⟨_, importExtensionGrouped_fires (happended.group hgroup) hguard⟩

/-- Where groups are nested deeper, the rule fires as often as it is repeated. -/
theorem importExtensionGrouped_fires_always (n : Nat) {text : Text}
    (hfires : (importExtensionGrouped.fire? text).isSome = true) (hdeep : 2 < groupDepth text) :
    RuleSet.firedBy (List.replicate n importExtensionGrouped) text =
      List.replicate n importExtensionGrouped.name := by
  induction n generalizing text with
  | zero => rfl
  | succ n ih =>
    obtain ⟨out, hout⟩ := Option.isSome_iff_exists.mp hfires
    obtain ⟨⟨again, hagain⟩, hdepth⟩ := importExtensionGrouped_fires_again hout hdeep
    have happly : importExtensionGrouped.apply text = out := by
      rw [Rule.apply, hout, Option.getD_some]
    have hne : importExtensionGrouped.apply text ≠ text := by
      rw [ne_eq, ← Rule.fire?_eq_none_iff, hout]
      simp
    rw [List.replicate_succ, RuleSet.firedBy_cons, if_neg hne, happly,
      ih (by rw [hagain]; rfl) (by rw [hdepth]; exact hdeep), List.replicate_succ]
    rfl

example : (importExtensionGrouped.fire?
      (Text.spell "use axum::\x7bextract::\x7bws::\x7bWebSocket\x7d\x7d\x7d;\nExtension(pool)")).isSome = true ∧
    groupDepth
      (Text.spell "use axum::\x7bextract::\x7bws::\x7bWebSocket\x7d\x7d\x7d;\nExtension(pool)") = 3 := by
  decide +kernel

end Catalog

end Recast
