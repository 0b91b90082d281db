import Recast.Proofs.Brackets
import Recast.Proofs.ByteSearch
import Recast.Proofs.Pattern.Leftmost

/-! Braced items of a header. An item goes from a header to the brace that closes the first one opened at
the header's start or behind it; the next header is looked for behind the item and behind its header.
A header whose body is not closed ends the scan, so items that follow it are not reported. -/

namespace Recast

/-- A text from a brace that opens to the one that closes it. Up to the last brace, more are opened than
closed. -/
structure Text.Enclosed (body : Text) : Prop where
  opens : body.head? = some '\x7b'
  closes : body.getLast? = some '\x7d'
  balanced : body.count '\x7b' = body.count '\x7d'
  inside : ∀ front, front <+: body → front ≠ [] → front ≠ body →
    front.count '\x7d' < front.count '\x7b'

theorem Text.enclosed_iff {body : Text} :
    body.Enclosed ↔ ∃ inner, body = '\x7b' :: (inner ++ ['\x7d']) ∧
      opened '\x7b' '\x7d' 0 inner = some 0 := by
  have hne : '\x7b' ≠ '\x7d' := by decide
  simp only [opened_eq_some_iff hne, Nat.add_zero, Nat.zero_add]
  constructor
  · rintro ⟨hopens, hcloses, hbalanced, hinside⟩
    obtain ⟨rest, rfl⟩ := List.head?_eq_some_iff.mp hopens
    obtain ⟨inner, rfl⟩ : ∃ inner, rest = inner ++ ['\x7d'] := by
      rcases List.eq_nil_or_concat rest with rfl | ⟨inner, c, rfl⟩
      · simp at hcloses
      · obtain rfl : c = '\x7d' := by simpa [List.getLast?_cons] using hcloses
        exact ⟨inner, List.concat_eq_append⟩
    refine ⟨inner, rfl, ?_, fun front hfront => ?_⟩
    · simpa [List.count_cons, List.count_append] using hbalanced.symm
    · have hproper := hinside ('\x7b' :: front)
        (List.cons_prefix_cons.mpr ⟨rfl, hfront.trans (List.prefix_append _ _)⟩)
        (List.cons_ne_nil _ _) (fun heq => ?_)
      · rw [List.count_cons_self, List.count_cons_of_ne hne] at hproper
        exact Nat.le_of_lt_succ hproper
      · have hlength := hfront.length_le
        rw [(List.cons.inj heq).2, List.length_append, List.length_singleton] at hlength
        omega
  · rintro ⟨inner, rfl, hcount, hfronts⟩
    refine ⟨rfl, by simp [List.getLast?_cons], ?_, fun front hfront hnil hproper => ?_⟩
    · simp [List.count_append, hcount]
    · obtain ⟨c, front, rfl⟩ := List.exists_cons_of_ne_nil hnil
      obtain ⟨rfl, hrest⟩ := List.cons_prefix_cons.mp hfront
      have hinner : front <+: inner := by
        rcases List.prefix_concat_iff.mp hrest with rfl | hinner
        · exact absurd rfl hproper
        · exact hinner
      have := hfronts front hinner
      rw [List.count_cons_self, List.count_cons_of_ne hne]
      omega

namespace Matcher

/-- The first brace that opens at a place or behind it is closed by the one that ends at `stop`. -/
def Closes (text : Text) (start stop : Nat) : Prop :=
  ∃ lead body after : Text, text.drop start = lead ++ (body ++ after) ∧ '\x7b' ∉ lead ∧ body.Enclosed ∧
    stop = start + lead.length + body.length

variable {text : Text} {start stop low : Nat}

theorem closing?_opened (pos : Nat) (more : Text) :
    closing? 0 pos ('\x7b' :: more) = closing? 1 (pos + 1) more := by
  rw [closing?.eq_def]
  simp

theorem closing?_eq_some_iff_closes :
    closing? 0 start (text.drop start) = some stop ↔ Closes text start stop := by
  constructor
  · intro h
    by_cases hopen : '\x7b' ∈ text.drop start
    · obtain ⟨lead, more, hsplit, hlead⟩ := List.eq_append_cons_of_mem hopen
      rw [hsplit, closing?_unopened hlead, closing?_opened, closing?_eq_some_iff] at h
      obtain ⟨inner, after, rfl, rfl, hinner⟩ := h
      refine ⟨lead, '\x7b' :: (inner ++ ['\x7d']), after, by simp [hsplit], hlead,
        Text.enclosed_iff.mpr ⟨inner, rfl, hinner⟩, ?_⟩
      simp only [List.length_cons, List.length_append, List.length_nil]
      omega
    · have hnone := closing?_unopened hopen [] start
      rw [List.append_nil] at hnone
      rw [hnone] at h
      cases h
  · rintro ⟨lead, body, after, hsplit, hlead, hbody, rfl⟩
    obtain ⟨inner, rfl, hinner⟩ := Text.enclosed_iff.mp hbody
    rw [hsplit, closing?_unopened hlead, List.cons_append, closing?_opened, closing?_eq_some_iff]
    refine ⟨inner, after, by simp, ?_, hinner⟩
    simp only [List.length_cons, List.length_append, List.length_nil]
    omega

theorem closing?_eq_none_iff_closes :
    closing? 0 start (text.drop start) = none ↔ ∀ stop, ¬ Closes text start stop := by
  rw [Option.eq_none_iff_forall_ne_some]
  simp only [ne_eq, closing?_eq_some_iff_closes]

structure Header (pattern : Pattern) (text : Text) (low : Nat) (head : Span) : Prop where
  leftmost : pattern.Leftmost text low head
  preferred : (Automaton.search? pattern.automaton (Cursor.ofPlace text low)).map (·.span) = some head

structure Item where
  head : Span
  stop : Nat

namespace Item

def span (item : Item) : Span := ⟨item.head.start, item.stop⟩

def resume (item : Item) : Nat := max item.stop item.head.stop

end Item

/-- The items of a text from an offset on. Each header is looked for behind the item and the header before
it, and the items end where there is no further header, or one without a closed body. -/
inductive Items (pattern : Pattern) (text : Text) : Nat → List Item → Prop
  | none {low : Nat} (h : ∀ place, low ≤ place → place ≤ text.length → ¬ pattern.MatchesAt text place) :
    Items pattern text low []
  | unclosed {low : Nat} {head : Span} (hhead : Header pattern text low head)
    (h : ∀ stop, ¬ Closes text head.start stop) : Items pattern text low []
  | item {low : Nat} {item : Item} {items : List Item} (hhead : Header pattern text low item.head)
    (hclose : Closes text item.head.start item.stop) (more : Items pattern text item.resume items) :
    Items pattern text low (item :: items)

variable {pattern : Pattern}

theorem Header.of_search? (hlow : low ≤ text.length) {hit : Match}
    (h : Automaton.search? pattern.automaton (Cursor.ofPlace text low) = some hit) :
    Header pattern text low hit.span :=
  ⟨Pattern.search?_leftmost hlow h, by rw [h]; rfl⟩

theorem Closes.bounds (h : Closes text start stop) : start < stop ∧ stop ≤ text.length := by
  have hbounds := closing?_bounds (closing?_eq_some_iff_closes.mpr h)
  rw [List.length_drop] at hbounds
  omega

theorem Closes.unique {other : Nat} (h : Closes text start stop) (h' : Closes text start other) :
    stop = other := by
  rw [← closing?_eq_some_iff_closes] at h h'
  rw [h] at h'
  exact Option.some.inj h'

namespace Items

variable {items : List Item}

/-- An item goes on behind where its header was looked for, and ends in the text. -/
theorem resume_bounds {item : Item} (hhead : Header pattern text low item.head)
    (hclose : Closes text item.head.start item.stop) :
    low < item.resume ∧ item.resume ≤ text.length := by
  obtain ⟨hstart, hstop, hend⟩ := hhead.leftmost.between
  have hbounds := hclose.bounds
  unfold Item.resume
  omega

/-- Every text has items, from every place on. -/
theorem exists_items (pattern : Pattern) (gap : Nat) : ∀ low, low + gap = text.length →
    ∃ items, Items pattern text low items := by
  induction gap using Nat.strongRecOn with
  | ind gap ih =>
    intro low hgap
    have hlow : low ≤ text.length := by omega
    cases hsearch : Automaton.search? pattern.automaton (Cursor.ofPlace text low) with
    | none => exact ⟨[], .none ((Pattern.search?_eq_none_iff hlow).mp hsearch)⟩
    | some hit =>
      have hhead := Header.of_search? hlow hsearch
      cases hclose : closing? 0 hit.span.start (text.drop hit.span.start) with
      | none => exact ⟨[], .unclosed hhead (closing?_eq_none_iff_closes.mp hclose)⟩
      | some stop =>
        have hcloses := closing?_eq_some_iff_closes.mp hclose
        have hbounds := @resume_bounds text low pattern ⟨hit.span, stop⟩ hhead hcloses
        obtain ⟨items, hitems⟩ := ih (text.length - (Item.mk hit.span stop).resume) (by omega) _
          (Nat.add_sub_cancel' hbounds.2)
        exact ⟨_, .item hhead hcloses hitems⟩

theorem sweepAt_eq (h : Items pattern text low items) :
    ∀ behind : Bool, low ≤ text.length →
      sweepAt (bracedProbe pattern.automaton) behind text low = items.map (·.span) := by
  induction h with
  | none h =>
    intro behind hlow
    exact sweepAt_halt (bracedProbe_none ((Pattern.search?_eq_none_iff hlow).mpr h) behind)
  | unclosed hhead h =>
    intro behind hlow
    obtain ⟨hit, hsearch, rfl⟩ := Option.map_eq_some_iff.mp hhead.preferred
    exact sweepAt_halt
      (bracedProbe_unclosed hlow hsearch (closing?_eq_none_iff_closes.mpr h) behind)
  | @item low item items hhead hclose more ih =>
    intro behind hlow
    obtain ⟨hlt, hend⟩ := resume_bounds hhead hclose
    obtain ⟨hit, hsearch, hspan⟩ := Option.map_eq_some_iff.mp hhead.preferred
    have hstop : closing? 0 hit.span.start (text.drop hit.span.start) = some item.stop := by
      rw [hspan]
      exact closing?_eq_some_iff_closes.mpr hclose
    have hitem := bracedProbe_item hlow hsearch hstop behind
    rw [hspan] at hitem
    rw [sweepAt_hit hlt hend hitem, ih true hend]
    rfl

theorem spans_eq {header : Regex} (h : Items header.pattern text 0 items) :
    (braced header).spans text = items.map (·.span) :=
  h.sweepAt_eq false (Nat.zero_le _)

/-- Without a closed body of the first header, no item is reported, whatever follows it. -/
theorem spans_eq_nil_of_unclosed {header : Regex} {head : Span}
    (hhead : Header header.pattern text 0 head) (h : ∀ stop, ¬ Closes text head.start stop) :
    (braced header).spans text = [] :=
  (Items.unclosed hhead h).spans_eq

/-- A header match with a closed body is reported, or it begins inside of an item or a header that is,
or behind a header at which the scan has ended. -/
theorem reported (h : Items pattern text low items) {place : Nat}
    (hmatch : pattern.MatchesAt text place) (hclose : Closes text place stop) (hlow : low ≤ place) :
    (∃ item ∈ items, item.span = ⟨place, stop⟩) ∨
      (∃ item ∈ items, item.head.start < place ∧ place < item.resume) ∨
      ∃ resumed head, Header pattern text resumed head ∧ head.start < place ∧
        ∀ stop, ¬ Closes text head.start stop := by
  have hend : place ≤ text.length := by
    have := hclose.bounds
    omega
  -- The header found is no further on than this one.
  have hfirst {low : Nat} {head : Span} (hhead : Header pattern text low head) (hlow : low ≤ place) :
      head.start = place ∨ head.start < place := by
    refine Nat.eq_or_lt_of_le (Nat.not_lt.mp fun hlt => ?_)
    exact hhead.leftmost.first place hlow hlt hmatch
  induction h with
  | none h => exact absurd hmatch (h place hlow hend)
  | @unclosed low head hhead h =>
    rcases hfirst hhead hlow with heq | hlt
    · exact absurd (heq ▸ hclose) (h stop)
    · exact .inr (.inr ⟨low, head, hhead, hlt, h⟩)
  | @item low item items hhead hitem more ih =>
    rcases hfirst hhead hlow with heq | hlt
    · rw [heq] at hitem
      refine .inl ⟨item, List.mem_cons_self, ?_⟩
      rw [Item.span, heq, hitem.unique hclose]
    · by_cases hinside : place < item.resume
      · exact .inr (.inl ⟨item, List.mem_cons_self, hlt, hinside⟩)
      · rcases ih (Nat.not_lt.mp hinside) with ⟨other, hother, hspan⟩ | ⟨other, hother, hover⟩ | hdead
        · exact .inl ⟨other, List.mem_cons_of_mem _ hother, hspan⟩
        · exact .inr (.inl ⟨other, List.mem_cons_of_mem _ hother, hover⟩)
        · exact .inr (.inr hdead)

/-- What an item covers: up to its first brace, and from there to the brace that closes it. -/
theorem slice_eq (h : Items pattern text low items) {span : Span}
    (hspan : span ∈ items.map (·.span)) :
    ∃ lead body : Text, span.slice text = lead ++ body ∧ '\x7b' ∉ lead ∧ body.Enclosed := by
  induction h with
  | none h => cases hspan
  | unclosed hhead h => cases hspan
  | @item low item items hhead hclose more ih =>
    rcases List.mem_cons.mp hspan with rfl | hspan
    · obtain ⟨lead, body, after, hsplit, hlead, hbody, hstop⟩ := hclose
      refine ⟨lead, body, ?_, hlead, hbody⟩
      have hlength : item.stop - item.head.start = (lead ++ body).length := by
        rw [hstop, List.length_append]
        omega
      change (text.drop item.head.start).take (item.stop - item.head.start) = lead ++ body
      rw [hsplit, hlength, ← List.append_assoc, List.take_left]
    · exact ih hspan

end Items

/-- What a matcher for braced items finds in a text. The braces of a span are balanced from its first one
on that opens; those of the whole span are if none closes before it. -/
structure ReportsItems (header : Regex) (text : Text) : Prop where
  terminates : Bytes.items? header.pattern.automaton (String.ofList text) =
    some ((braced header).byteSpans text)
  ordered : Span.Ordered 0 text.length ((braced header).spans text)
  scanned : ∃ items, Items header.pattern text 0 items
  reported : ∀ items, Items header.pattern text 0 items →
    (braced header).spans text = items.map (·.span)
  enclosed : ∀ span ∈ (braced header).spans text, ∃ lead body : Text,
    span.slice text = lead ++ body ∧ '\x7b' ∉ lead ∧ body.Enclosed ∧
      ((span.slice text).count '\x7b' = (span.slice text).count '\x7d' ↔ '\x7d' ∉ lead)

/-- The spans of a braced matcher are the items of its header. -/
theorem braced_reports_items (header : Regex) (text : Text) : ReportsItems header text where
  terminates := Bytes.items?_eq header text
  ordered := spans_ordered (braced header) text
  scanned := Items.exists_items header.pattern text.length 0 (Nat.zero_add _)
  reported items h := h.spans_eq
  enclosed span hspan := by
    obtain ⟨items, hitems⟩ := Items.exists_items header.pattern text.length 0 (Nat.zero_add _)
    rw [hitems.spans_eq] at hspan
    obtain ⟨lead, body, hslice, hlead, hbody⟩ := hitems.slice_eq hspan
    refine ⟨lead, body, hslice, hlead, hbody, ?_⟩
    rw [hslice, List.count_append, List.count_append, List.count_eq_zero_of_not_mem hlead,
      hbody.balanced, ← List.count_eq_zero]
    omega

theorem braced_span_unbalanced :
    (braced (.ofText "fn \\w+".toList)).spans "fn a \x7d \x7b\x7d".toList = [⟨0, 9⟩] ∧
      ((Span.mk 0 9).slice "fn a \x7d \x7b\x7d".toList).count '\x7b' = 1 ∧
      ((Span.mk 0 9).slice "fn a \x7d \x7b\x7d".toList).count '\x7d' = 2 := by
  decide +kernel

/-- A closed item behind one that is not closed is not reported. -/
theorem unclosed_item_hides_next :
    (braced (.ofText "fn \\w+".toList)).spans "fn a() \x7b \x7b\nfn b() \x7b\x7d\n".toList = [] ∧
      (Regex.ofText "fn \\w+".toList).pattern.MatchesAt
        "fn a() \x7b \x7b\nfn b() \x7b\x7d\n".toList 11 ∧
      Closes "fn a() \x7b \x7b\nfn b() \x7b\x7d\n".toList 11 20 := by
  refine ⟨by decide +kernel, ?_, closing?_eq_some_iff_closes.mp (by decide +kernel)⟩
  have hsearch : Automaton.search? (Regex.ofText "fn \\w+".toList).pattern.automaton
      (Cursor.ofPlace "fn a() \x7b \x7b\nfn b() \x7b\x7d\n".toList 11) = some ⟨⟨11, 15⟩, []⟩ := by
    decide +kernel
  exact ⟨_, (Pattern.search?_leftmost (by decide) hsearch).crosses⟩

end Matcher

end Recast
