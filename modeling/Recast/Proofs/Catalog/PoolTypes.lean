import Recast.Proofs.Catalog.FixedAccess
import Recast.Proofs.Catalog.Nesting
import Recast.Proofs.Pattern.Hits

/-! Parameters whose pool has type arguments. The depth of a text counts angle brackets: one up where a
bracket opens and one down where it closes. From the bracket that opens the type of the parameter, the
pattern goes on to the bracket that brings the depth back to zero for the first time, as long as the
depth stays within three. So the rule replaces whole types or nothing. -/

namespace Recast

namespace Text

/-- How many more angle brackets are opened than closed. -/
def depth (text : Text) : Int := (text.count '<' : Int) - text.count '>'

/-- The end of the type that opens with the first bracket of a text: the depth comes back to zero there for
the first time, and up to there it is at most `most`. -/
structure TypeEnd (most : Nat) (text : Text) (size : Nat) : Prop where
  positive : 0 < size
  inside : size ≤ text.length
  closed : depth (text.take size) = 0
  inner : ∀ count, 0 < count → count < size → depth (text.take count) ≠ 0
  shallow : ∀ count, count < size → depth (text.take count) ≤ most

variable {first second text rest : Text} {most size : Nat}

@[simp]
theorem depth_nil : depth [] = 0 := rfl

@[simp]
theorem depth_append : depth (first ++ second) = depth first + depth second := by
  simp only [depth, List.count_append]
  omega

theorem depth_singleton {c : Char} :
    depth [c] = if c = '<' then 1 else if c = '>' then -1 else 0 := by
  by_cases ho : c = '<'
  · subst ho
    rfl
  · by_cases hc : c = '>'
    · subst hc
      rfl
    · simp [depth, ho, hc]

@[simp]
theorem depth_opening : depth ('<' :: text) = depth text + 1 := by
  have hsplit : '<' :: text = ['<'] ++ text := rfl
  rw [hsplit, depth_append, depth_singleton, if_pos rfl, Int.add_comm]

theorem depth_plain (h : ∀ c ∈ text, c ≠ '<' ∧ c ≠ '>') : depth text = 0 := by
  have hopening : text.count '<' = 0 := List.count_eq_zero.mpr fun hmem => (h _ hmem).1 rfl
  have hclosing : text.count '>' = 0 := List.count_eq_zero.mpr fun hmem => (h _ hmem).2 rfl
  rw [depth, hopening, hclosing]
  rfl

theorem depth_nested (h : Nested '<' '>' most text) : depth text = 0 := by
  have hcount := ((nested_iff_counts (by decide)).mp h).1
  rw [depth, hcount, Int.sub_self]

theorem TypeEnd.unique {other : Nat} (h : TypeEnd most text size) (h' : TypeEnd most text other) :
    size = other := by
  rcases Nat.lt_trichotomy size other with hlt | heq | hlt
  · exact absurd h.closed (h'.inner size h.positive hlt)
  · exact heq
  · exact absurd h'.closed (h.inner other h'.positive hlt)

theorem depth_take_succ (text : Text) (count : Nat) :
    depth (text.take count) - 1 ≤ depth (text.take (count + 1)) := by
  rw [List.take_add_one, depth_append]
  cases text[count]? with
  | none =>
    rw [Option.toList_none, depth_nil]
    omega
  | some c =>
    rw [Option.toList_some, depth_singleton]
    split
    · omega
    · split <;> omega

/-- Inside the type the depth is positive: it begins with one and never comes to zero. -/
theorem TypeEnd.one_le (h : TypeEnd most ('<' :: rest) size) (count : Nat) :
    count + 1 < size → 1 ≤ depth (('<' :: rest).take (count + 1)) := by
  intro hlt
  induction count with
  | zero => simp
  | succ count ih =>
    have hbefore := ih (by omega)
    have hstep := depth_take_succ ('<' :: rest) (count + 1)
    have hne := h.inner (count + 1 + 1) (by omega) hlt
    omega

theorem take_type {inner after : Text} {count : Nat} (h : count ≤ inner.length) :
    ('<' :: (inner ++ after)).take (count + 1) = '<' :: inner.take count := by
  rw [List.take_succ_cons, List.take_append_of_le_length h]

theorem take_type_all (inner : Text) (c : Char) (after : Text) :
    ('<' :: (inner ++ c :: after)).take (inner.length + 2) = '<' :: (inner ++ [c]) := by
  have hend : inner ++ c :: after = (inner ++ [c]) ++ after := by simp
  rw [hend, take_type (by simp), List.take_of_length_le (by simp)]

theorem TypeEnd.nested (h : TypeEnd (most + 1) ('<' :: rest) size) :
    ∃ inner after, rest = inner ++ '>' :: after ∧ size = inner.length + 2 ∧
      Nested '<' '>' most inner := by
  obtain ⟨count, rfl⟩ : ∃ count, size = count + 2 := by
    have hpositive := h.positive
    have hone : size ≠ 1 := by
      rintro rfl
      exact absurd h.closed (by simp)
    exact ⟨size - 2, by omega⟩
  have hinside := h.inside
  rw [List.length_cons] at hinside
  obtain ⟨c, after, hdrop⟩ : ∃ c after, rest.drop count = c :: after :=
    List.exists_cons_of_ne_nil (by rw [Ne, List.drop_eq_nil_iff]; omega)
  have hsplit := List.take_append_drop count rest
  have hlength : (rest.take count).length = count := by
    rw [List.length_take]
    omega
  rw [hdrop] at hsplit
  generalize rest.take count = inner at hsplit hlength
  subst hsplit hlength
  -- The depth is one before the last character and zero behind it, so that one closes the type.
  have hclosed := h.closed
  have hopen := h.one_le inner.length (by omega)
  rw [take_type_all, depth_opening, depth_append, depth_singleton] at hclosed
  rw [take_type (Nat.le_refl _), List.take_length, depth_opening] at hopen
  obtain rfl : c = '>' := by
    by_contra hc
    rw [if_neg hc] at hclosed
    split at hclosed <;> omega
  rw [if_neg (by decide), if_pos rfl, depth] at hclosed
  refine ⟨inner, after, rfl, rfl, (nested_iff_counts (by decide)).mpr ⟨by omega, ?_⟩⟩
  intro front hfront
  have hshort := hfront.length_le
  have hfrontOpen := h.one_le front.length (by omega)
  have hshallow := h.shallow (front.length + 1) (by omega)
  rw [take_type hshort, ← List.prefix_iff_eq_take.mp hfront, depth_opening, depth]
    at hfrontOpen hshallow
  omega

theorem typeEnd_of_nested {inner : Text} (h : Nested '<' '>' most inner) (after : Text) :
    TypeEnd (most + 1) ('<' :: (inner ++ '>' :: after)) (inner.length + 2) := by
  have hbounds (count : Nat) : 0 ≤ depth (inner.take count) ∧ depth (inner.take count) ≤ most := by
    have := ((nested_iff_counts (by decide)).mp h).2 _ (List.take_prefix count inner)
    rw [depth]
    omega
  have hinside {count : Nat} (hlt : count + 1 < inner.length + 2) :
      depth (('<' :: (inner ++ '>' :: after)).take (count + 1)) = depth (inner.take count) + 1 := by
    rw [take_type (by omega), depth_opening]
  constructor
  · exact Nat.succ_pos _
  · simp
  · rw [take_type_all, depth_opening, depth_append, depth_nested h]
    rfl
  · intro count hpos hlt
    obtain ⟨count, rfl⟩ := Nat.exists_eq_succ_of_ne_zero (Nat.ne_of_gt hpos)
    have := hbounds count
    rw [hinside hlt]
    omega
  · intro count hlt
    cases count with
    | zero =>
      rw [List.take_zero, depth_nil]
      omega
    | succ count =>
      have := hbounds count
      rw [hinside hlt]
      omega

end Text

namespace Catalog

open Pattern

namespace Form

def poolOpening : Form where
  source := "State\\(pool\\):\\s*State<".toList
  pattern := lit (Text.spell "State(pool):") (seq blanks (lit (Text.spell "State") (one '<')))

end Form

/-- The parameter with a pool up to the bracket that opens its type. -/
def poolTypeOpening : Regex := .ofText "State\\(pool\\):\\s*State<".toList Form.poolOpening.valid

def poolType : Regex :=
  .ofText "State\\(pool\\):\\s*State<(?:[^<>]|<(?:[^<>]|<[^<>]*>)*>)*>".toList
    Form.poolStateAny.valid

def poolLead (blanks : Text) : Text := Text.spell "State(pool):" ++ (blanks ++ Text.spell "State")

variable {prev : Option Char} {found rest blanks behind : Text} {n : Nat}

theorem reads_poolOpening : Form.poolOpening.pattern.Reads prev found rest ↔
    ∃ blanks, (∀ c ∈ blanks, CharClass.blank.has c = true) ∧ found = poolLead blanks ++ ['<'] := by
  constructor
  · intro h
    obtain ⟨_, rfl, hmore⟩ := reads_lit.mp h
    obtain ⟨blanks, _, rfl, hblanks, htype⟩ := reads_seq.mp hmore
    obtain ⟨_, rfl, hlast⟩ := reads_lit.mp htype
    obtain ⟨c, rfl, hc⟩ := reads_char.mp hlast
    rw [CharClass.has_single.mp hc]
    exact ⟨blanks, Form.reads_blanks hblanks, by simp [poolLead]⟩
  · rintro ⟨blanks, hblanks, rfl⟩
    have hlast : (Form.one '<').Reads (Text.lastFrom
        (Text.lastFrom (Text.lastFrom prev (Text.spell "State(pool):")) blanks) (Text.spell "State"))
          ['<'] rest := reads_char.mpr ⟨'<', rfl, CharClass.has_single.mpr rfl⟩
    rw [poolLead, List.append_assoc, List.append_assoc]
    exact reads_lit.mpr ⟨_, rfl, reads_seq.mpr ⟨blanks, _, rfl,
      reads_many.mpr ⟨Nat.zero_le _, hblanks⟩, reads_lit.mpr ⟨_, rfl, hlast⟩⟩⟩

theorem reads_poolType : Form.poolStateAny.pattern.Reads prev found rest ↔
    ∃ blanks inner, (∀ c ∈ blanks, CharClass.blank.has c = true) ∧ Text.Nested '<' '>' 2 inner ∧
      found = poolLead blanks ++ '<' :: (inner ++ ['>']) := by
  constructor
  · intro h
    obtain ⟨_, rfl, hmore⟩ := reads_lit.mp h
    obtain ⟨blanks, _, rfl, hblanks, htype⟩ := reads_seq.mp hmore
    obtain ⟨_, rfl, harguments⟩ := reads_lit.mp htype
    obtain ⟨inner, _, rfl, hinner, hlast⟩ := reads_seq.mp harguments
    obtain ⟨c, rfl, hc⟩ := reads_char.mp hlast
    rw [CharClass.has_single.mp hc]
    exact ⟨blanks, inner, Form.reads_blanks hblanks, (Form.reads_nest (by decide) 2).mp hinner,
      by simp [poolLead, Text.spell]⟩
  · rintro ⟨blanks, inner, hblanks, hinner, rfl⟩
    have hfound : poolLead blanks ++ '<' :: (inner ++ ['>']) =
        Text.spell "State(pool):" ++ (blanks ++ (Text.spell "State<" ++ (inner ++ ['>']))) := by
      simp [poolLead, Text.spell]
    rw [hfound]
    refine reads_lit.mpr ⟨_, rfl, reads_seq.mpr ⟨blanks, _, rfl,
      reads_many.mpr ⟨Nat.zero_le _, hblanks⟩, reads_lit.mpr ⟨_, rfl, reads_seq.mpr
        ⟨inner, ['>'], rfl, (Form.reads_nest (by decide) 2).mpr hinner, ?_⟩⟩⟩⟩
    exact reads_char.mpr ⟨'>', rfl, CharClass.has_single.mpr rfl⟩

theorem poolLead_inj {blanks' behind' : Text} (h : ∀ c ∈ blanks, CharClass.blank.has c = true)
    (h' : ∀ c ∈ blanks', CharClass.blank.has c = true)
    (heq : poolLead blanks ++ '<' :: behind = poolLead blanks' ++ '<' :: behind') :
    blanks = blanks' ∧ behind = behind' := by
  simp only [poolLead, List.append_assoc, List.append_cancel_left_eq] at heq
  obtain ⟨rfl, -, hbehind⟩ := Text.append_cons_inj h (by decide) h' (by decide) heq
  exact ⟨rfl, by simpa using hbehind⟩

theorem width?_poolOpening (hblanks : ∀ c ∈ blanks, CharClass.blank.has c = true) :
    Form.poolOpening.pattern.width? prev (poolLead blanks ++ '<' :: behind) =
      some ((poolLead blanks).length + 1) := by
  have hreads (rest : Text) : Form.poolOpening.pattern.Reads prev (poolLead blanks ++ ['<']) rest :=
    reads_poolOpening.mpr ⟨blanks, hblanks, rfl⟩
  have hwidth := width?_of_reads (hreads behind) fun first more heq hfirst => by
    obtain ⟨blanks', hblanks', rfl⟩ := reads_poolOpening.mp hfirst
    simp only [List.append_assoc, List.singleton_append] at heq
    rw [(poolLead_inj hblanks hblanks' heq).1]
  simpa using hwidth

/-- Where the parameter begins, the pattern reads just the texts that go on to the end of the type. -/
theorem reads_poolType_iff {more : Text} (hblanks : ∀ c ∈ blanks, CharClass.blank.has c = true)
    (heq : poolLead blanks ++ '<' :: behind = found ++ more) :
    Form.poolStateAny.pattern.Reads prev found more ↔ ∃ size, Text.TypeEnd 3 ('<' :: behind) size ∧
      found.length = (poolLead blanks).length + size := by
  rw [reads_poolType]
  constructor
  · rintro ⟨blanks', inner, hblanks', hinner, rfl⟩
    rw [List.append_assoc, List.cons_append, List.append_assoc] at heq
    obtain ⟨rfl, rfl⟩ := poolLead_inj hblanks hblanks' heq
    exact ⟨inner.length + 2, Text.typeEnd_of_nested hinner more, by simp⟩
  · rintro ⟨size, hend, hlength⟩
    obtain ⟨inner, after, rfl, rfl, hinner⟩ := hend.nested
    refine ⟨blanks, inner, hblanks, hinner, ?_⟩
    have hsplit : (poolLead blanks ++ '<' :: (inner ++ ['>'])) ++ after = found ++ more := by
      rw [← heq]
      simp
    exact (List.append_inj hsplit (by rw [hlength]; simp)).1.symm

theorem width?_poolType_iff (hblanks : ∀ c ∈ blanks, CharClass.blank.has c = true) :
    Form.poolStateAny.pattern.width? prev (poolLead blanks ++ '<' :: behind) = some n ↔
      ∃ size, Text.TypeEnd 3 ('<' :: behind) size ∧ n = (poolLead blanks).length + size := by
  constructor
  · intro h
    have hfound := (reads_poolType_iff hblanks (List.take_append_drop n _).symm).mp
      (reads_of_width? h)
    rwa [List.length_take, Nat.min_eq_left (width?_le h)] at hfound
  · rintro ⟨size, hend, rfl⟩
    obtain ⟨found, rest, hsplit, hlength⟩ : ∃ found rest,
        poolLead blanks ++ '<' :: behind = found ++ rest ∧
          found.length = (poolLead blanks).length + size := by
      have hinside := hend.inside
      refine ⟨_, _, (List.take_append_drop ((poolLead blanks).length + size) _).symm, ?_⟩
      rw [List.length_take, List.length_append]
      omega
    have hreads : Form.poolStateAny.pattern.Reads prev found rest :=
      (reads_poolType_iff hblanks hsplit).mpr ⟨size, hend, hlength⟩
    rw [hsplit, ← hlength]
    refine width?_of_reads hreads fun first more heq hfirst => ?_
    -- A type has one end, so every other reading is as long.
    obtain ⟨other, hother, hfirstLength⟩ :=
      (reads_poolType_iff hblanks (hsplit.trans heq)).mp hfirst
    rw [hfirstLength, hlength, hother.unique hend]

theorem drop_poolLead {text : Text} {place : Nat}
    (h : text.drop place = poolLead blanks ++ '<' :: behind) :
    text.drop (place + (poolLead blanks).length) = '<' :: behind := by
  rw [← List.drop_drop, h, List.drop_left]

theorem hits_poolOpening_iff {text : Text} {place stop : Nat} :
    poolTypeOpening.pattern.Hits text ⟨place, stop⟩ ↔ ∃ blanks behind,
      (∀ c ∈ blanks, CharClass.blank.has c = true) ∧
        text.drop place = poolLead blanks ++ '<' :: behind ∧
          stop = place + ((poolLead blanks).length + 1) := by
  have hp : poolTypeOpening.pattern = Form.poolOpening.pattern := Form.poolOpening.pattern_ofText
  rw [hp, hits_iff Form.poolOpening.consumes Form.poolOpening.settled]
  constructor
  · rintro ⟨n, hn, rfl⟩
    obtain ⟨blanks, hblanks, htake⟩ := reads_poolOpening.mp (reads_of_width? hn)
    have hsplit := (List.take_append_drop n (text.drop place)).symm
    rw [htake, List.append_assoc, List.singleton_append] at hsplit
    refine ⟨blanks, _, hblanks, hsplit, ?_⟩
    rw [hsplit, width?_poolOpening hblanks] at hn
    rw [Option.some.inj hn]
  · rintro ⟨blanks, behind, hblanks, hsplit, rfl⟩
    exact ⟨_, by rw [hsplit, width?_poolOpening hblanks], rfl⟩

theorem hits_poolType_iff {text : Text} {place stop : Nat} :
    poolType.pattern.Hits text ⟨place, stop⟩ ↔ ∃ n,
      Form.poolStateAny.pattern.width? (Text.lastFrom none (text.take place)) (text.drop place) =
        some n ∧ stop = place + n := by
  have hp : poolType.pattern = Form.poolStateAny.pattern := Form.poolStateAny.pattern_ofText
  rw [hp, hits_iff Form.poolStateAny.consumes Form.poolStateAny.settled]

/-- From the beginning of the parameter, a match goes on to the end of the type. -/
theorem hits_poolType_of_opening {text : Text} {place bracket stop : Nat}
    (h : poolTypeOpening.pattern.Hits text ⟨place, bracket + 1⟩) :
    poolType.pattern.Hits text ⟨place, stop⟩ ↔
      ∃ size, Text.TypeEnd 3 (text.drop bracket) size ∧ stop = bracket + size := by
  obtain ⟨blanks, behind, hblanks, hsplit, hbracket⟩ := hits_poolOpening_iff.mp h
  obtain rfl : bracket = place + (poolLead blanks).length := by omega
  rw [hits_poolType_iff, drop_poolLead hsplit, hsplit]
  simp only [width?_poolType_iff hblanks]
  constructor
  · rintro ⟨_, ⟨size, hend, rfl⟩, rfl⟩
    exact ⟨size, hend, by omega⟩
  · rintro ⟨size, hend, rfl⟩
    exact ⟨_, ⟨size, hend, rfl⟩, by omega⟩

theorem exists_opening_of_poolType {text : Text} {span : Span}
    (h : poolType.pattern.Hits text span) :
    ∃ bracket, poolTypeOpening.pattern.Hits text ⟨span.start, bracket + 1⟩ := by
  obtain ⟨place, stop⟩ := span
  obtain ⟨n, hn, rfl⟩ := hits_poolType_iff.mp h
  obtain ⟨blanks, inner, hblanks, -, htake⟩ := reads_poolType.mp (reads_of_width? hn)
  have hsplit := (List.take_append_drop n (text.drop place)).symm
  rw [htake, List.append_assoc, List.cons_append] at hsplit
  exact ⟨place + (poolLead blanks).length,
    hits_poolOpening_iff.mpr ⟨blanks, _, hblanks, hsplit, rfl⟩⟩

/-- A parameter with a type has as many brackets that open as brackets that close. -/
theorem depth_poolType (h : Form.poolStateAny.pattern.Reads prev found rest) :
    Text.depth found = 0 := by
  obtain ⟨blanks, inner, hblanks, hinner, rfl⟩ := reads_poolType.mp h
  have hblank : Text.depth blanks = 0 := Text.depth_plain fun c hc => by
    constructor <;> rintro rfl <;> exact absurd (hblanks _ hc) (by decide)
  have hname : Text.depth (Text.spell "State(pool):") = 0 := by decide
  have htype : Text.depth (Text.spell "State") = 0 := by decide
  have hclosing : Text.depth ['>'] = -1 := by decide
  rw [poolLead, Text.depth_append, Text.depth_append, Text.depth_append, Text.depth_opening,
    Text.depth_append, Text.depth_nested hinner, hblank, hname, htype, hclosing]
  rfl

/-- The rule replaces parameters with their whole types, and nothing else. Where a parameter begins there is
a match exactly if its type has an end. -/
structure ReplacesWholeTypes (text : Text) : Prop where
  rule : extractAppStateAny.matcher = .regex poolType
  matched : ∀ place bracket, poolTypeOpening.pattern.Hits text ⟨place, bracket + 1⟩ →
    ∀ stop, poolType.pattern.Hits text ⟨place, stop⟩ ↔
      ∃ size, Text.TypeEnd 3 (text.drop bracket) size ∧ stop = bracket + size
  whole : ∀ span ∈ extractAppStateAny.matcher.spans text, ∃ bracket size,
    poolTypeOpening.pattern.Hits text ⟨span.start, bracket + 1⟩ ∧
      Text.TypeEnd 3 (text.drop bracket) size ∧ span.stop = bracket + size
  replaced : extractAppStateAny.apply text =
    splice text ((extractAppStateAny.matcher.spans text).map fun span => (span, appStateParam))
  balanced : Text.depth (extractAppStateAny.apply text) = Text.depth text

theorem extractAppStateAny_replaces_whole_types (text : Text) : ReplacesWholeTypes text where
  rule := rfl
  matched _ _ h _ := hits_poolType_of_opening h
  whole := by
    intro span hspan
    obtain ⟨hit, hhit, rfl⟩ := List.mem_map.mp hspan
    have hp : poolType.pattern = Form.poolStateAny.pattern := Form.poolStateAny.pattern_ofText
    have hhits : poolType.pattern.Hits text hit.span := by
      rw [hp]
      exact hits_of_mem_findAll Form.poolStateAny.consumes Form.poolStateAny.settled (hp ▸ hhit)
    obtain ⟨bracket, hopening⟩ := exists_opening_of_poolType hhits
    obtain ⟨size, hend, hstop⟩ := (hits_poolType_of_opening hopening).mp hhits
    exact ⟨bracket, size, hopening, hend, hstop⟩
  replaced := by
    have ha : extractAppStateAny.action = .replace (.template appStateParam) .all := rfl
    have hplain : (Replacement.template appStateParam).isPlain = true := by
      rw [appStateParam_spelled]
      decide
    rw [Rule.apply_of_replace ha rfl, Matcher.getD_replace?_of_spans fun _ => hplain,
      Scope.pick_all]
    rfl
  balanced := by
    refine (Form.poolStateAny.patched_apply rfl extractAppStateAny_action (by decide)).keeps
      (fun out => Text.depth out = Text.depth text) ?_ rfl
    rintro first found _ second ⟨⟨_, _, _, hreads⟩, rfl⟩ hkept
    have hnew : Text.depth (Text.spell "State(state): State<AppState>") = 0 := by decide
    rw [Replacement.acts_template]
    simp only [Text.depth_append, depth_poolType hreads, hnew] at hkept ⊢
    exact hkept

/-- A type is left alone whose brackets are nested one deeper than the pattern looks. -/
example : (Matcher.regex poolType).spans
    "State(pool): State<A<B<C>>>, State(pool): State<A<B<C<D>>>>".toList = [⟨0, 27⟩] := by
  decide +kernel

end Catalog

end Recast
