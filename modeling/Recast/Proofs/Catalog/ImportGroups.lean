import Recast.Proofs.Catalog.ExtensionGroup

/-! Import groups as lists of entries. Between the braces of a group stand its entries, with commas
between them, white space around them, and perhaps a comma behind the last one. A new entry is put
behind what is left of the group once its end is trimmed, with a comma before it. This makes it the last
entry wherever there is one before it. In a group without entries the comma has nothing to stand behind,
and what comes out is no list of entries at all. -/

namespace Recast.Catalog

def AllBlank (text : Text) : Prop := ∀ c ∈ text, Text.isBlank c = true

instance (text : Text) : Decidable (AllBlank text) :=
  text.decidableBAll fun c => Text.isBlank c = true

/-- Braces are balanced, and a comma stands inside of braces only. -/
structure Undivided (text : Text) : Prop where
  closed : Text.opened '\x7b' '\x7d' 0 text = some 0
  inside : ∀ front back, text = front ++ ',' :: back → Text.opened '\x7b' '\x7d' 0 front ≠ some 0

structure IsEntry (entry : Text) : Prop extends Undivided entry where
  ne_nil : entry ≠ []
  head_blank : ∀ c ∈ entry.head?, Text.isBlank c = false
  last_blank : ∀ c ∈ entry.getLast?, Text.isBlank c = false

structure Placed (entry part : Text) : Prop where
  isEntry : IsEntry entry
  spaced : ∃ lead trail, AllBlank lead ∧ AllBlank trail ∧ part = lead ++ (entry ++ trail)

/-- The entries that stand in a text with commas between them. No entry needs to follow the last
comma. -/
inductive Listing : List Text → Text → Prop where
  | none {gap : Text} (h : AllBlank gap) : Listing [] gap
  | last {entry part : Text} (h : Placed entry part) : Listing [entry] part
  | more {entry part rest : Text} {entries : List Text} (h : Placed entry part)
    (hrest : Listing entries rest) : Listing (entry :: entries) (part ++ ',' :: rest)

structure ImportGroup (opening : Text) (entries : List Text) (group : Text) : Prop where
  opens : opening.getLast? = some '\x7b'
  lists : ∃ inner, group = opening ++ (inner ++ ['\x7d']) ∧ Listing entries inner

section

variable {text first second front gap entry part rest rest' : Text}

theorem not_isBlank_of_isWord {c : Char} (h : Text.isWord c = true) : Text.isBlank c = false := by
  refine Bool.eq_false_iff.mpr fun hblank => ?_
  rw [Text.isWord_of_isBlank hblank] at h
  cases h

theorem AllBlank.plain (h : AllBlank gap) : ∀ c ∈ gap, c ≠ '\x7b' ∧ c ≠ '\x7d' := by
  intro c hc
  exact ne_brace_of_isLoose (by rw [isLoose, h c hc, Bool.true_or])

theorem AllBlank.comma_notin (h : AllBlank gap) : ',' ∉ gap := Text.notin_of_class h (by decide)

theorem Undivided.behind (h : Undivided text) (hgap : AllBlank gap) : Undivided (gap ++ text) where
  closed := by rw [Text.opened_plain hgap.plain, h.closed]
  inside front back heq := by
    obtain ⟨inner, rfl⟩ := Text.prefix_of_notin hgap.comma_notin heq
    rw [List.append_assoc] at heq
    rw [Text.opened_plain hgap.plain]
    exact h.inside inner back (List.append_cancel_left heq)

theorem Undivided.before (h : Undivided text) (hgap : AllBlank gap) : Undivided (text ++ gap) where
  closed := (Text.opened_append_plain braces_differ hgap.plain).mpr h.closed
  inside front back heq := by
    obtain ⟨more, rfl⟩ := Text.suffix_of_notin hgap.comma_notin heq.symm
    rw [← List.cons_append, ← List.append_assoc] at heq
    exact h.inside front more (List.append_cancel_right heq)

theorem Undivided.ne_append (h : Undivided first) (h' : Undivided second) :
    first ≠ second ++ ',' :: rest :=
  fun heq => h.inside second rest heq h'.closed

theorem Undivided.append_inj (h : Undivided first) (h' : Undivided second)
    (heq : first ++ ',' :: rest = second ++ ',' :: rest') : first = second ∧ rest = rest' := by
  rcases List.append_eq_append_iff.mp heq with ⟨more, rfl, hmore⟩ | ⟨more, rfl, hmore⟩
  · cases more with
    | nil => exact ⟨(List.append_nil first).symm, (List.cons.inj hmore).2⟩
    | cons c more =>
      obtain ⟨rfl, -⟩ := List.cons.inj hmore
      exact absurd rfl (h'.ne_append h)
  · cases more with
    | nil => exact ⟨List.append_nil second, (List.cons.inj hmore).2.symm⟩
    | cons c more =>
      obtain ⟨rfl, -⟩ := List.cons.inj hmore
      exact absurd rfl (h.ne_append h')

theorem IsName.isEntry (h : IsName entry) : IsEntry entry where
  closed := by
    have hplain : ∀ c ∈ entry, c ≠ '\x7b' ∧ c ≠ '\x7d' := by
      intro c hc
      constructor <;> rintro rfl <;> exact absurd (h.word _ hc) (by decide)
    rw [← List.append_nil entry, Text.opened_plain hplain]
    rfl
  inside front back heq := by
    have hcomma := h.word ',' (by rw [heq]; simp)
    exact absurd hcomma (by decide)
  ne_nil := h.nonempty
  head_blank c hc := not_isBlank_of_isWord (h.word c (List.mem_of_mem_head? hc))
  last_blank c hc := not_isBlank_of_isWord (h.word c (List.mem_of_mem_getLast? hc))

theorem Placed.undivided (h : Placed entry part) : Undivided part := by
  obtain ⟨lead, trail, hlead, htrail, rfl⟩ := h.spaced
  exact (h.isEntry.before htrail).behind hlead

theorem Placed.trimmed (h : Placed entry part) : Text.trimEnd (Text.trimStart part) = entry := by
  obtain ⟨lead, trail, hlead, htrail, rfl⟩ := h.spaced
  have hhead : ∀ c ∈ (entry ++ trail).head?, Text.isBlank c = false := by
    rw [Text.head?_append_of_ne_nil h.isEntry.ne_nil]
    exact h.isEntry.head_blank
  rw [Text.trimStart, Text.dropWhile_append hlead hhead, Text.trimEnd,
    Text.dropEndWhile_append_of_last h.isEntry.last_blank htrail]

theorem Placed.not_allBlank (h : Placed entry part) : ¬ AllBlank part := by
  intro hblank
  obtain ⟨lead, trail, -, -, rfl⟩ := h.spaced
  obtain ⟨c, entry, rfl⟩ := List.exists_cons_of_ne_nil h.isEntry.ne_nil
  have hhead := h.isEntry.head_blank c rfl
  rw [hblank c (by simp)] at hhead
  cases hhead

theorem Listing.allBlank (h : Listing [] text) : AllBlank text := by
  cases h with
  | none h => exact h

theorem Listing.head_ne_comma {entries : List Text} (h : Listing entries text) :
    text.head? ≠ some ',' := by
  have placed {entry part : Text} (h : Placed entry part) (rest : Text) :
      (part ++ rest).head? ≠ some ',' := by
    intro hhead
    obtain ⟨back, hback⟩ := List.head?_eq_some_iff.mp hhead
    cases part with
    | nil => exact absurd h.trimmed h.isEntry.ne_nil.symm
    | cons c part =>
      obtain ⟨rfl, -⟩ := List.cons.inj hback
      exact h.undivided.inside [] part rfl rfl
  cases h with
  | none h =>
    intro hhead
    obtain ⟨back, rfl⟩ := List.head?_eq_some_iff.mp hhead
    exact h.comma_notin List.mem_cons_self
  | last h =>
    rw [← List.append_nil text]
    exact placed h []
  | more h hrest => exact placed h _

theorem Listing.unique {entries entries' : List Text} (h : Listing entries text)
    (h' : Listing entries' text) : entries = entries' := by
  induction h generalizing entries' with
  | none h =>
    cases h' with
    | none => rfl
    | last h' => exact absurd h h'.not_allBlank
    | more => exact absurd (by simp) h.comma_notin
  | last h =>
    cases h' with
    | none h' => exact absurd h' h.not_allBlank
    | last h' => rw [← h.trimmed, h'.trimmed]
    | more h' => exact absurd rfl (h.undivided.ne_append h'.undivided)
  | @more entry part rest entries h _ ih =>
    generalize htext : part ++ ',' :: rest = text at h'
    cases h' with
    | none h' => exact absurd (by simp [← htext]) h'.comma_notin
    | last h' => exact absurd htext.symm (h'.undivided.ne_append h.undivided)
    | more h' hrest =>
      obtain ⟨rfl, rfl⟩ := h.undivided.append_inj h'.undivided htext
      rw [← h.trimmed, h'.trimmed, ih hrest]

theorem IsEntry.last_not_loose (h : IsEntry entry) :
    ∃ c, entry.getLast? = some c ∧ isLoose c = false := by
  cases hlast : entry.getLast? with
  | none => exact absurd (List.getLast?_eq_none_iff.mp hlast) h.ne_nil
  | some c =>
    refine ⟨c, rfl, Bool.or_eq_false_iff.mpr ⟨h.last_blank c hlast, beq_eq_false_iff_ne.mpr ?_⟩⟩
    rintro rfl
    obtain ⟨front, rfl⟩ := List.getLast?_eq_some_iff.mp hlast
    have hplain : ∀ c ∈ [','], c ≠ '\x7b' ∧ c ≠ '\x7d' := by simp
    exact h.inside front [] rfl ((Text.opened_append_plain braces_differ hplain).mp h.closed)

def openEnd (text : Text) : Text :=
  (Text.stripLast? ',' (Text.trimEnd text)).getD (Text.trimEnd text)

theorem openEnd_blank {c : Char} (hlast : front.getLast? = some c) (hc : isLoose c = false)
    (hgap : AllBlank gap) : openEnd (front ++ gap) = front := by
  obtain ⟨hblank, hcomma⟩ := Bool.or_eq_false_iff.mp hc
  have htrim : Text.trimEnd (front ++ gap) = front := by
    refine Text.dropEndWhile_append_of_last ?_ hgap
    rw [hlast]
    rintro _ ⟨⟩
    exact hblank
  have hne : front.getLast? ≠ some ',' := by
    rw [hlast]
    rintro ⟨⟩
    exact absurd hcomma (by decide)
  rw [openEnd, htrim, Text.stripLast?, if_neg hne, Option.getD_none]

theorem openEnd_comma (hgap : AllBlank gap) : openEnd (front ++ ',' :: gap) = front := by
  have htrim : Text.trimEnd (front ++ ',' :: gap) = front ++ [','] := by
    rw [← List.singleton_append, ← List.append_assoc]
    refine Text.dropEndWhile_append_of_last ?_ hgap
    rw [List.getLast?_concat]
    rintro _ ⟨⟩
    decide
  rw [openEnd, htrim, stripLast?_eq_some_iff.mpr rfl, Option.getD_some]

theorem IsEntry.placed (h : IsEntry entry) {lead trail : Text} (hlead : AllBlank lead)
    (htrail : AllBlank trail) : Placed entry (lead ++ (entry ++ trail)) :=
  ⟨h, lead, trail, hlead, htrail, rfl⟩

/-- The new entry is put behind a comma, in the layout of what stands before it. -/
theorem appendToGroup_eq (item front : Text) : ∃ tail,
    appendToGroup item (front ++ ['\x7d']) = openEnd front ++ ',' :: (tail ++ ['\x7d']) ∧
      (IsEntry item → Listing [item] tail) := by
  rw [appendToGroup, stripLast?_eq_some_iff.mpr rfl]
  simp only
  rw [← openEnd]
  split
  · refine ⟨(Text.spell "\n    " ++ (item ++ [])) ++ ',' :: ['\n'], by simp [Text.spell], ?_⟩
    intro h
    exact .more (h.placed (by decide) (by decide)) (.none (by decide))
  · refine ⟨Text.spell " " ++ (item ++ []), by simp [Text.spell], ?_⟩
    intro h
    exact .last (h.placed (by decide) (by decide))

/-- Where there are entries, what is left of them takes one more entry behind a comma. -/
theorem Listing.extends {entries : List Text} (h : Listing entries text) (hne : entries ≠ []) :
    ∃ kept, (∀ opening, openEnd (opening ++ text) = opening ++ kept) ∧
      ∀ item tail, Listing [item] tail → Listing (entries ++ [item]) (kept ++ ',' :: tail) := by
  induction h with
  | none => exact absurd rfl hne
  | @last entry part h =>
    obtain ⟨lead, trail, hlead, htrail, rfl⟩ := h.spaced
    obtain ⟨c, hlast, hc⟩ := h.isEntry.last_not_loose
    refine ⟨lead ++ entry, fun opening => ?_, fun item tail htail => ?_⟩
    · have hend : (opening ++ (lead ++ entry)).getLast? = some c := by simp [hlast]
      rw [← openEnd_blank hend hc htrail]
      simp
    · have hnone : AllBlank [] := by simp [AllBlank]
      have hplaced := h.isEntry.placed hlead hnone
      rw [List.append_nil] at hplaced
      exact .more hplaced htail
  | @more entry part rest entries h hrest ih =>
    by_cases hnil : entries = []
    · subst hnil
      refine ⟨part, fun opening => ?_, fun item tail htail => .more h htail⟩
      rw [← List.append_assoc]
      exact openEnd_comma hrest.allBlank
    · obtain ⟨kept, hkept, hmore⟩ := ih hnil
      refine ⟨part ++ ',' :: kept, fun opening => ?_, fun item tail htail => ?_⟩
      · have hopened := hkept (opening ++ part ++ [','])
        simpa using hopened
      · have htogether := Listing.more h (hmore item tail htail)
        simpa using htogether

end

namespace ImportGroup

variable {opening group item : Text} {entries : List Text}

theorem unique {entries' : List Text} (h : ImportGroup opening entries group)
    (h' : ImportGroup opening entries' group) : entries = entries' := by
  obtain ⟨inner, rfl, hlists⟩ := h.lists
  obtain ⟨inner', heq, hlists'⟩ := h'.lists
  obtain rfl : inner = inner' := List.append_cancel_right (List.append_cancel_left heq)
  exact hlists.unique hlists'

theorem append (h : ImportGroup opening entries group) (hne : entries ≠ []) (hitem : IsEntry item) :
    ImportGroup opening (entries ++ [item]) (appendToGroup item group) := by
  obtain ⟨inner, rfl, hlists⟩ := h.lists
  obtain ⟨kept, hkept, hmore⟩ := hlists.extends hne
  obtain ⟨tail, happend, htail⟩ := appendToGroup_eq item (opening ++ inner)
  refine ⟨h.opens, kept ++ ',' :: tail, ?_, hmore item tail (htail hitem)⟩
  rw [← List.append_assoc, happend, hkept]
  simp

theorem not_append_empty (h : ImportGroup opening [] group) (item : Text) (entries : List Text) :
    ¬ ImportGroup opening entries (appendToGroup item group) := by
  intro hafter
  obtain ⟨inner, rfl, hlists⟩ := h.lists
  obtain ⟨inner', heq, hlists'⟩ := hafter.lists
  obtain ⟨tail, happend, -⟩ := appendToGroup_eq item (opening ++ inner)
  rw [← List.append_assoc, happend, openEnd_blank h.opens (by decide) hlists.allBlank,
    ← List.cons_append] at heq
  obtain rfl : ',' :: tail = inner' := List.append_cancel_right (List.append_cancel_left heq)
  exact hlists'.head_ne_comma rfl

/-- An entry joins those of a group exactly if the group has some. -/
theorem append_iff (h : ImportGroup opening entries group) (hitem : IsEntry item) :
    ImportGroup opening (entries ++ [item]) (appendToGroup item group) ↔ entries ≠ [] := by
  constructor
  · rintro hafter rfl
    exact h.not_append_empty item _ hafter
  · exact fun hne => h.append hne hitem

end ImportGroup

/-- Not every group takes a further entry. -/
theorem not_every_group_extends :
    ¬ ∀ (opening : Text) (entries : List Text) (group item : Text),
      ImportGroup opening entries group → IsEntry item →
        ImportGroup opening (entries ++ [item]) (appendToGroup item group) := by
  intro h
  have hgroup : ImportGroup ['\x7b'] [] ['\x7b', '\x7d'] :=
    ⟨rfl, [], rfl, .none (by decide)⟩
  exact hgroup.not_append_empty _ _ (h _ _ _ _ hgroup isName_extension.isEntry)

example : appendToGroup extensionName (Text.spell "use axum::\x7b\x7d") =
    Text.spell "use axum::\x7b, Extension\x7d" := by
  decide

section

variable {text before inner after : Text} {entries : List Text} {rule : Rule}

/-- Where a rule adds `Extension` to the first group from the framework, `Extension` becomes the last
entry of the group exactly if the group has entries. -/
theorem FrameworkGroup.lists_extension_iff (hm : rule.matcher = .braced frameworkGroup)
    (ha : rule.action = .replace (.computed appendExtension) .first)
    (h : FrameworkGroup text before inner after) (hg : rule.guard.holds text = true)
    (hentries : Listing entries inner) :
    (∃ group, rule.apply text = before ++ (group ++ after) ∧
      ImportGroup (frameworkUse ++ ['\x7b']) (entries ++ [extensionName]) group) ↔ entries ≠ [] := by
  have hgroup : ImportGroup (frameworkUse ++ ['\x7b']) entries (grouped inner) :=
    ⟨List.getLast?_concat, inner, by simp [grouped], hentries⟩
  rw [← hgroup.append_iff isName_extension.isEntry, h.apply hm ha hg]
  constructor
  · rintro ⟨group, heq, hafter⟩
    obtain rfl : appendExtension (grouped inner) = group :=
      List.append_cancel_right (List.append_cancel_left heq)
    exact hafter
  · exact fun hafter => ⟨_, rfl, hafter⟩

end

end Recast.Catalog
