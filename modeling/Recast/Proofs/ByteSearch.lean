import Recast.Proofs.Braced
import Recast.Proofs.Bytes
import Recast.Proofs.Sweeps

/-! Searching by byte offsets. Whole lines and braced items can be looked for in the bytes of a string, by
going on from offset to offset and cutting the string at each: the cuts all have an answer, and what is
found is where the spans of the matcher lie in bytes. So neither a wide character nor a header that
matches nothing leads such a search inside a character. -/

namespace Recast

namespace Matcher

variable {needle : Text} {accepts : Cursor → Text → Bool}

theorem sweepFrom_text_behind (text : Text) : ∀ (skip : Nat) (behind : Bool) (pos : Nat)
    (prev : Option Char),
    sweepFrom (textProbe needle accepts) skip behind pos prev text =
      sweepFrom (textProbe needle accepts) skip false pos prev text := by
  induction text with
  | nil =>
    intro skip behind pos prev
    cases skip <;> rfl
  | cons c rest ih =>
    intro skip behind pos prev
    cases skip with
    | zero => rfl
    | succ skip => exact ih skip behind (pos + 1) (some c)

theorem textProbe_of_not_prefix {here : Cursor} (h : ¬ needle <+: here.rest) (behind : Bool) :
    textProbe needle accepts behind here = .miss := by
  simp [textProbe, h]

theorem sweepFrom_text_absent {text : Text} (h : Text.splitBefore? needle text = none) :
    ∀ (pos : Nat) (prev : Option Char),
      sweepFrom (textProbe needle accepts) 0 false pos prev text = [] := by
  induction text with
  | nil =>
    intro pos prev
    have hne : ¬ needle <+: [] := by
      rintro hempty
      rw [List.prefix_nil.mp hempty] at h
      cases h
    rw [sweepFrom, textProbe_of_not_prefix hne]
  | cons c rest ih =>
    intro pos prev
    rw [Text.splitBefore?] at h
    split at h
    · cases h
    next hprefix =>
      rw [sweepFrom, textProbe_of_not_prefix (by simpa using hprefix)]
      exact ih (by simpa using h) (pos + 1) (some c)

/-- A sweep for a fixed text passes over what stands before its first occurrence. -/
theorem sweepFrom_text_gap {text gap found : Text}
    (h : Text.splitBefore? needle text = some (gap, found)) : ∀ (pos : Nat) (prev : Option Char),
      sweepFrom (textProbe needle accepts) 0 false pos prev text =
        sweepFrom (textProbe needle accepts) 0 false (pos + gap.length) (Text.lastFrom prev gap)
          found := by
  induction text generalizing gap with
  | nil =>
    rw [Text.splitBefore?] at h
    split at h
    · cases h
      exact fun _ _ => rfl
    · cases h
  | cons c rest ih =>
    intro pos prev
    rw [Text.splitBefore?] at h
    split at h
    · cases h
      rfl
    next hprefix =>
      obtain ⟨⟨gap, found⟩, hcut, heq⟩ := Option.map_eq_some_iff.mp h
      obtain ⟨rfl, rfl⟩ := Prod.mk.inj heq
      have hnext : pos + 1 + gap.length = pos + (c :: gap).length := by
        rw [List.length_cons]
        omega
      rw [sweepFrom, textProbe_of_not_prefix (by simpa using hprefix)]
      simp only
      rw [ih hcut, hnext, Text.lastFrom]

/-- A sweep at an occurrence of the text it looks for: it goes on behind it, or at the next place. -/
theorem sweepFrom_text_found {c : Char} {more after : Text} (pos : Nat) (prev : Option Char) :
    sweepFrom (textProbe (c :: more) accepts) 0 false pos prev (c :: more ++ after) =
      if accepts ⟨pos, prev, c :: more ++ after⟩ after then
        ⟨pos, pos + (c :: more).length⟩ ::
          sweepFrom (textProbe (c :: more) accepts) 0 false (pos + (c :: more).length)
            (Text.lastFrom prev (c :: more)) after
      else sweepFrom (textProbe (c :: more) accepts) 0 false (pos + 1) (some c) (more ++ after) := by
  have hprefix : (c :: more).isPrefixOf (c :: more ++ after) = true := by simp
  have hprobe : textProbe (c :: more) accepts false ⟨pos, prev, c :: more ++ after⟩ =
      if accepts ⟨pos, prev, c :: more ++ after⟩ after then
        .hit ⟨pos, pos + (c :: more).length⟩ (pos + (c :: more).length)
      else .miss := by
    rw [textProbe, List.drop_left]
    simp
  by_cases haccepts : accepts ⟨pos, prev, c :: more ++ after⟩ after = true
  · rw [if_pos haccepts] at hprobe ⊢
    rw [sweepFrom_hit (List.cons_ne_nil c more) hprobe, sweepFrom_text_behind]
  · rw [if_neg haccepts] at hprobe ⊢
    rw [List.cons_append] at hprobe ⊢
    simp only [sweepFrom, hprobe]

end Matcher

/-- A match that is searched for from a place of a text lies between that place and the end. -/
theorem Automaton.search?_place {steps : Array Step} {text : Text} {place : Nat} {hit : Match}
    (hplace : place ≤ text.length) (h : search? steps (Cursor.ofPlace text place) = some hit) :
    hit.span.Between place text.length := by
  have hbetween := search?_between h
  simpa only [Cursor.ofPlace, List.length_drop, Nat.add_sub_cancel' hplace] using hbetween

namespace Matcher

variable {steps : Array Step} {text : Text} {place : Nat} {hit : Match}

theorem bracedProbe_none (h : Automaton.search? steps (Cursor.ofPlace text place) = none)
    (behind : Bool) : bracedProbe steps behind (Cursor.ofPlace text place) = .halt := by
  rw [bracedProbe, h]

theorem drop_ofPlace (hplace : place ≤ text.length)
    (h : Automaton.search? steps (Cursor.ofPlace text place) = some hit) :
    (Cursor.ofPlace text place).rest.drop
      (hit.span.start - (Cursor.ofPlace text place).pos) = text.drop hit.span.start := by
  have hstart := (Automaton.search?_place hplace h).1
  rw [Cursor.ofPlace, List.drop_drop, Nat.add_sub_cancel' hstart]

theorem bracedProbe_unclosed (hplace : place ≤ text.length)
    (h : Automaton.search? steps (Cursor.ofPlace text place) = some hit)
    (hclose : closing? 0 hit.span.start (text.drop hit.span.start) = none) (behind : Bool) :
    bracedProbe steps behind (Cursor.ofPlace text place) = .halt := by
  simp only [bracedProbe, h, drop_ofPlace hplace h, hclose]

theorem bracedProbe_item {stop : Nat} (hplace : place ≤ text.length)
    (h : Automaton.search? steps (Cursor.ofPlace text place) = some hit)
    (hclose : closing? 0 hit.span.start (text.drop hit.span.start) = some stop) (behind : Bool) :
    bracedProbe steps behind (Cursor.ofPlace text place) =
      .hit ⟨hit.span.start, stop⟩ (max stop hit.span.stop) := by
  simp only [bracedProbe, h, drop_ofPlace hplace h, hclose]

end Matcher

theorem Matcher.closing?_unopened {gap : Text} (h : '\x7b' ∉ gap) (rest : Text) : ∀ pos : Nat,
    closing? 0 pos (gap ++ rest) = closing? 0 (pos + gap.length) rest := by
  induction gap with
  | nil => exact fun _ => rfl
  | cons c gap ih =>
    intro pos
    obtain ⟨hc, hgap⟩ : '\x7b' ≠ c ∧ '\x7b' ∉ gap := by simpa using h
    have hnext : pos + 1 + gap.length = pos + (c :: gap).length := by
      rw [List.length_cons]
      omega
    rw [List.cons_append, closing?.eq_def]
    simp only [if_neg hc.symm, ih hgap, hnext, ite_self]

namespace Bytes

theorem slice?_drop (text : Text) (place : Nat) :
    slice? (String.ofList text) (Text.byteSize (text.take place)) (String.ofList text).utf8ByteSize =
      some (String.ofList (text.drop place)) := by
  have hslice := slice?_to_end (text.take place) (text.drop place)
  rwa [List.take_append_drop] at hslice

theorem slice?_take (text : Text) (place : Nat) :
    slice? (String.ofList text) 0 (Text.byteSize (text.take place)) =
      some (String.ofList (text.take place)) := by
  have hslice := slice?_ofList [] (text.take place) (text.drop place)
  rwa [List.nil_append, Text.byteSize_nil, Nat.zero_add, List.take_append_drop] at hslice

theorem getLast?_utf8EncodeChar (c : Char) :
    (String.utf8EncodeChar c).getLast? = some 10 ↔ c = '\n' := by
  have hlow {n : Nat} (h : n ≤ 127) : UInt8.ofNat n = 10 ↔ n = 10 := by
    rw [← UInt8.toNat_inj, UInt8.toNat_ofNat']
    have : (10 : UInt8).toNat = 10 := rfl
    omega
  have hhigh (n : Nat) : UInt8.ofNat (n % 64 + 128) ≠ 10 := by
    intro h
    rw [← UInt8.toNat_inj, UInt8.toNat_ofNat'] at h
    have : (10 : UInt8).toNat = 10 := rfl
    omega
  have hbreak : c = '\n' ↔ c.val.toNat = 10 := by
    rw [← Char.val_inj, ← UInt32.toNat_inj]
    rfl
  rw [hbreak, String.utf8EncodeChar]
  split
  next h => rw [List.getLast?_singleton, Option.some.injEq, hlow h]
  next h =>
    -- Every other character has more than one byte, and the last of them has its high bit set.
    have hwide (bytes : List UInt8) (last : UInt8) (hlast : last ≠ 10) :
        (bytes ++ [last]).getLast? = some 10 ↔ c.val.toNat = 10 := by
      rw [List.getLast?_append, List.getLast?_singleton, Option.some_or, Option.some.injEq]
      exact ⟨fun h => absurd h hlast, fun h => by omega⟩
    split
    · exact hwide [_] _ (hhigh _)
    · split
      · exact hwide [_, _] _ (hhigh _)
      · exact hwide [_, _, _] _ (hhigh _)

theorem length_flatMap_utf8EncodeChar (text : Text) :
    (text.flatMap String.utf8EncodeChar).length = Text.byteSize text := by
  induction text with
  | nil => rfl
  | cons c rest ih =>
    rw [List.flatMap_cons, List.length_append, String.length_utf8EncodeChar, ih, Text.byteSize_cons]

/-- The byte before an offset behind a character is the last byte of that character. -/
theorem byte_before (init back : Text) (c : Char) :
    (String.ofList (init ++ [c] ++ back)).toByteArray.data[Text.byteSize (init ++ [c]) - 1]? =
      (String.utf8EncodeChar c).getLast? := by
  have hpos := c.utf8Size_pos
  have hlength := String.length_utf8EncodeChar c
  have hinit := length_flatMap_utf8EncodeChar init
  have hbytes : (String.ofList (init ++ [c] ++ back)).toByteArray.data.toList =
      init.flatMap String.utf8EncodeChar ++
        (String.utf8EncodeChar c ++ back.flatMap String.utf8EncodeChar) := by
    rw [String.toByteArray_ofList, List.utf8Encode]
    simp
  have hplace : Text.byteSize (init ++ [c]) - 1 = Text.byteSize init + (c.utf8Size - 1) := by
    rw [Text.byteSize_append, Text.byteSize_cons, Text.byteSize_nil]
    omega
  rw [← Array.getElem?_toList, hbytes, hplace, List.getElem?_append_right (by omega), hinit,
    Nat.add_sub_cancel_left, List.getElem?_append_left (by omega), List.getLast?_eq_getElem?, hlength]

def startsLine (content : String) (place : Nat) : Bool :=
  place = 0 || content.toByteArray.data[place - 1]? = some 10

theorem startsLine_eq (front back : Text) :
    startsLine (String.ofList (front ++ back)) (Text.byteSize front) =
      (Text.lastFrom none front).all (· = '\n') := by
  rcases List.eq_nil_or_concat front with rfl | ⟨init, c, rfl⟩
  · rfl
  · have hpos : Text.byteSize (init ++ [c]) ≠ 0 := Nat.ne_of_gt (Text.byteSize_pos (by simp))
    rw [startsLine, List.concat_eq_append, byte_before, Text.lastFrom_append]
    simp [hpos, getLast?_utf8EncodeChar, Text.lastFrom]

/-- The spans of a block of whole lines from an offset on. The search goes on behind a span, and behind
the first character of an occurrence that is none. -/
def lineSpansFrom? (content : String) (block : Text) : Nat → Nat → Option (List Span)
  | 0, _ => none
  | fuel + 1, place => do
    let rest ← slice? content place content.utf8ByteSize
    match Text.splitBefore? block rest.toList with
    | none => some []
    | some (gap, _) =>
      let start := place + Text.byteSize gap
      let stop := start + Text.byteSize block
      let after ← slice? content stop content.utf8ByteSize
      if startsLine content start && Matcher.endsLine after.toList then
        (lineSpansFrom? content block fuel stop).map (⟨start, stop⟩ :: ·)
      else lineSpansFrom? content block fuel (start + Text.byteSize (block.take 1))

def lineSpans? (content : String) (block : Text) : Option (List Span) :=
  if block.isEmpty then some []
  else lineSpansFrom? content block (content.utf8ByteSize + 1) 0

theorem lineSpansFrom?_eq {text block : Text} (hne : block ≠ []) (fuel : Nat) :
    ∀ {front rest : Text}, text = front ++ rest → Text.byteSize rest < fuel →
      lineSpansFrom? (String.ofList text) block fuel (Text.byteSize front) =
        some ((sweepFrom (Matcher.linesProbe block) 0 false front.length
          (Text.lastFrom none front) rest).map (·.inBytes (Text.byteOffsets text))) := by
  obtain ⟨c, more, rfl⟩ := List.exists_cons_of_ne_nil hne
  induction fuel with
  | zero => exact fun _ h => absurd h (Nat.not_lt_zero _)
  | succ fuel ih =>
    intro front rest htext hfuel
    have hrest : slice? (String.ofList text) (Text.byteSize front)
        (String.ofList text).utf8ByteSize = some (String.ofList rest) := by
      rw [htext]
      exact slice?_to_end front rest
    rw [lineSpansFrom?, hrest]
    simp only [Option.bind_eq_bind, Option.bind_some, String.toList_ofList]
    cases hcut : Text.splitBefore? (c :: more) rest with
    | none => rw [Matcher.linesProbe, Matcher.sweepFrom_text_absent hcut, List.map_nil]
    | some cut =>
      obtain ⟨gap, found⟩ := cut
      obtain ⟨rfl, after, rfl⟩ := Text.splitBefore?_eq_some hcut
      -- The occurrence stands behind what was passed over, and its first character behind that.
      have hfound : text = front ++ gap ++ (c :: more ++ after) := by rw [htext, List.append_assoc]
      have hnext : text = front ++ gap ++ [c] ++ (more ++ after) := by simp [hfound]
      have hbehind : text = front ++ gap ++ (c :: more) ++ after := by simp [hfound]
      have hstart : Text.byteSize front + Text.byteSize gap = Text.byteSize (front ++ gap) :=
        (Text.byteSize_append front gap).symm
      have hstop : Text.byteSize (front ++ gap) + Text.byteSize (c :: more) =
          Text.byteSize (front ++ gap ++ (c :: more)) := (Text.byteSize_append _ _).symm
      have hstep : Text.byteSize (front ++ gap) + Text.byteSize ((c :: more).take 1) =
          Text.byteSize (front ++ gap ++ [c]) := (Text.byteSize_append _ _).symm
      have hafter : slice? (String.ofList text) (Text.byteSize (front ++ gap ++ (c :: more)))
          (String.ofList text).utf8ByteSize = some (String.ofList after) := by
        rw [hbehind]
        exact slice?_to_end _ after
      have hline : startsLine (String.ofList text) (Text.byteSize (front ++ gap)) =
          (Text.lastFrom none (front ++ gap)).all (· = '\n') := by
        rw [hfound]
        exact startsLine_eq _ _
      have hspan : (Span.mk (front ++ gap).length ((front ++ gap).length + (c :: more).length)).inBytes
          (Text.byteOffsets text) =
            ⟨Text.byteSize (front ++ gap), Text.byteSize (front ++ gap ++ (c :: more))⟩ := by
        rw [← hstop, hfound]
        exact Span.inBytes_found (front ++ gap) (c :: more) after
      have hlength : (front ++ gap ++ (c :: more)).length =
          (front ++ gap).length + (c :: more).length := List.length_append
      have hpos := c.utf8Size_pos
      simp only [Text.byteSize_append, Text.byteSize_cons, List.cons_append] at hfuel
      simp only [hstart, hstop, hstep, hafter, hline, Option.bind_some, String.toList_ofList]
      rw [ih hbehind (by omega), ih hnext (by rw [Text.byteSize_append]; omega), Matcher.linesProbe,
        Matcher.sweepFrom_text_gap hcut, Matcher.sweepFrom_text_found, ← List.length_append,
        ← Text.lastFrom_append]
      by_cases haccepts : (Text.lastFrom none (front ++ gap)).all (· = '\n') &&
          Matcher.endsLine after
      · rw [if_pos haccepts, Option.map_some, Matcher.startsLine, if_pos haccepts, List.map_cons, hspan,
          Text.lastFrom_append none (front ++ gap), hlength]
      · rw [if_neg haccepts, Matcher.startsLine, if_neg haccepts,
          Text.lastFrom_append none (front ++ gap), List.length_append]
        rfl

theorem lineSpans?_eq (text block : Text) :
    lineSpans? (String.ofList text) block =
      some ((sweep (Matcher.linesProbe block) text).map (·.inBytes (Text.byteOffsets text))) := by
  rw [lineSpans?]
  split
  next hempty =>
    rw [List.isEmpty_iff.mp hempty, Matcher.linesProbe, Matcher.sweep_text_nil, List.map_nil]
  next hne =>
    have hfuel : Text.byteSize text < (String.ofList text).utf8ByteSize + 1 := by
      rw [Text.utf8ByteSize_ofList]
      omega
    exact lineSpansFrom?_eq (by simpa using hne) _ (List.nil_append text).symm hfuel

/-- The offset just past the brace that closes the last open one, or `none` if the text ends before.
There is no answer where a brace is closed that was never opened. -/
def countFrom? : Nat → Nat → Text → Option (Option Nat)
  | _, _, [] => some none
  | depth, place, c :: rest =>
    if c = '\x7b' then countFrom? (depth + 1) (place + c.utf8Size) rest
    else if c = '\x7d' then
      match depth with
      | 0 => none
      | 1 => some (some (place + 1))
      | depth + 2 => countFrom? (depth + 1) (place + c.utf8Size) rest
    else countFrom? depth (place + c.utf8Size) rest

theorem countFrom?_eq (text : Text) : ∀ (depth place : Nat),
    countFrom? (depth + 1) place text =
      some ((Matcher.closing? (depth + 1) 0 text).map fun n =>
        place + Text.byteSize (text.take n)) := by
  induction text with
  | nil => exact fun _ _ => rfl
  | cons c rest ih =>
    intro depth place
    have hshift (depth : Nat) :
        (Matcher.closing? depth (0 + 1) rest).map (fun n => place + Text.byteSize ((c :: rest).take n)) =
          (Matcher.closing? depth 0 rest).map fun n =>
            place + c.utf8Size + Text.byteSize (rest.take n) := by
      rw [Matcher.closing?_eq rest depth (0 + 1), Option.map_map]
      congr 1
      funext n
      simp only [Function.comp, Nat.zero_add, List.take_succ_cons, Text.byteSize_cons, Nat.add_assoc]
    unfold countFrom? Matcher.closing?
    split
    · rw [ih (depth + 1), hshift]
    · split
      next hclose =>
        cases depth with
        | zero =>
          subst hclose
          rfl
        | succ depth => simp only [ih depth, hshift]
      next => rw [ih depth, hshift]

def bodyEnd? (content : String) (place : Nat) : Option (Option Nat) := do
  let rest ← slice? content place content.utf8ByteSize
  match Text.splitBefore? ['\x7b'] rest.toList with
  | none => some none
  | some (gap, _) =>
    let opening := place + Text.byteSize gap
    let body ← slice? content opening content.utf8ByteSize
    countFrom? 0 opening body.toList

theorem bodyEnd?_eq (front rest : Text) :
    bodyEnd? (String.ofList (front ++ rest)) (Text.byteSize front) =
      some ((Matcher.closing? 0 0 rest).map fun n =>
        Text.byteSize front + Text.byteSize (rest.take n)) := by
  rw [bodyEnd?, slice?_to_end]
  simp only [Option.bind_eq_bind, Option.bind_some, String.toList_ofList]
  cases hcut : Text.splitBefore? ['\x7b'] rest with
  | none =>
    have hunclosed := Matcher.closing?_unopened (Text.mark_notin_of_splitBefore? hcut) [] 0
    rw [List.append_nil] at hunclosed
    rw [hunclosed]
    rfl
  | some cut =>
    obtain ⟨gap, found⟩ := cut
    have hgap := Text.mark_notin_before hcut
    obtain ⟨rfl, body, rfl⟩ := Text.splitBefore?_eq_some hcut
    have hopened : Matcher.closing? 0 0 (gap ++ (['\x7b'] ++ body)) =
        (Matcher.closing? 1 0 body).map (· + (gap.length + 1)) := by
      rw [Matcher.closing?_unopened hgap, ← Matcher.closing?_eq]
      simp [Matcher.closing?]
    have hslice : slice? (String.ofList (front ++ (gap ++ (['\x7b'] ++ body))))
        (Text.byteSize front + Text.byteSize gap)
        (String.ofList (front ++ (gap ++ (['\x7b'] ++ body)))).utf8ByteSize =
          some (String.ofList (['\x7b'] ++ body)) := by
      rw [← List.append_assoc, ← Text.byteSize_append]
      exact slice?_to_end (front ++ gap) _
    simp only [hslice, Option.bind_some, String.toList_ofList, hopened]
    have hplace (n : Nat) : (gap ++ '\x7b' :: body).take (n + (gap.length + 1)) =
        gap ++ '\x7b' :: body.take n := by
      rw [Nat.add_comm n, Nat.add_assoc, List.take_length_add_append, Nat.add_comm 1,
        List.take_succ_cons]
    have hbrace : Char.utf8Size '\x7b' = 1 := rfl
    rw [List.singleton_append, countFrom?, if_pos rfl, countFrom?_eq, Option.map_map]
    congr 2
    funext n
    simp only [Function.comp, hplace, Text.byteSize_append, Text.byteSize_cons]
    omega

theorem bodyEnd?_place (text : Text) (place : Nat) :
    bodyEnd? (String.ofList text) (Text.byteSize (text.take place)) =
      some ((Matcher.closing? 0 place (text.drop place)).map fun stop =>
        Text.byteSize (text.take stop)) := by
  have hend := bodyEnd?_eq (text.take place) (text.drop place)
  rw [List.take_append_drop] at hend
  rw [hend, Matcher.closing?_eq _ 0 place, Option.map_map]
  congr 2
  funext n
  rw [Function.comp, Nat.add_comm n, List.take_add, Text.byteSize_append]

/-- The items of a header from an offset on. The search goes on behind an item, or behind its header
if that reaches further. -/
def itemsFrom? (steps : Array Step) (content : String) : Nat → Nat → Option (List Span)
  | 0, _ => none
  | fuel + 1, place => do
    let front ← slice? content 0 place
    let rest ← slice? content place content.utf8ByteSize
    match Automaton.search? steps
        ⟨front.toList.length, Text.lastFrom none front.toList, rest.toList⟩ with
    | none => some []
    | some hit =>
      let found := hit.span.inBytes (Text.byteOffsets content.toList)
      match ← bodyEnd? content found.start with
      | none => some []
      | some stop =>
        (itemsFrom? steps content fuel (max stop found.stop)).map (⟨found.start, stop⟩ :: ·)

def items? (steps : Array Step) (content : String) : Option (List Span) :=
  itemsFrom? steps content (content.utf8ByteSize + 1) 0

theorem itemsFrom?_eq (steps : Array Step) {text : Text} (fuel : Nat) :
    ∀ {place : Nat} (behind : Bool), place ≤ text.length → text.length < place + fuel →
      itemsFrom? steps (String.ofList text) fuel (Text.byteSize (text.take place)) =
        some ((sweepAt (Matcher.bracedProbe steps) behind text place).map
          (·.inBytes (Text.byteOffsets text))) := by
  induction fuel with
  | zero => exact fun _ hplace hfuel => absurd hfuel (by omega)
  | succ fuel ih =>
    intro place behind hplace hfuel
    have hlength : (text.take place).length = place := List.length_take_of_le hplace
    rw [itemsFrom?, slice?_take, slice?_drop]
    simp only [Option.bind_eq_bind, Option.bind_some, String.toList_ofList, hlength]
    rw [← Cursor.ofPlace]
    cases hsearch : Automaton.search? steps (Cursor.ofPlace text place) with
    | none => rw [sweepAt_halt (Matcher.bracedProbe_none hsearch behind), List.map_nil]
    | some hit =>
      obtain ⟨hstart, hstop, hend⟩ := Automaton.search?_place hplace hsearch
      have hbytes : hit.span.inBytes (Text.byteOffsets text) =
          ⟨Text.byteSize (text.take hit.span.start), Text.byteSize (text.take hit.span.stop)⟩ :=
        Span.inBytes_eq (by omega) (by omega)
      simp only [hbytes]
      rw [bodyEnd?_place]
      cases hclose : Matcher.closing? 0 hit.span.start (text.drop hit.span.start) with
      | none =>
        rw [sweepAt_halt (Matcher.bracedProbe_unclosed hplace hsearch hclose behind)]
        rfl
      | some stop =>
        obtain ⟨hopen, hclosed⟩ := Matcher.closing?_bounds hclose
        rw [List.length_drop] at hclosed
        have hitem := Matcher.bracedProbe_item hplace hsearch hclose behind
        have hspan : (Span.mk hit.span.start stop).inBytes (Text.byteOffsets text) =
            ⟨Text.byteSize (text.take hit.span.start), Text.byteSize (text.take stop)⟩ :=
          Span.inBytes_eq (by simp only; omega) (by simp only; omega)
        have hrest := @ih (max stop hit.span.stop) true (by omega) (by omega)
        rw [sweepAt_hit (by omega) (by omega) hitem, List.map_cons, hspan]
        simp only [Option.map_some, Option.bind_some, ← Text.byteSize_take_max, hrest]

theorem items?_eq (header : Regex) (text : Text) :
    items? header.pattern.automaton (String.ofList text) =
      some (((Matcher.braced header).spans text).map (·.inBytes (Text.byteOffsets text))) := by
  have hfuel : text.length < 0 + ((String.ofList text).utf8ByteSize + 1) := by
    have := Text.length_le_byteSize text
    rw [Text.utf8ByteSize_ofList]
    omega
  exact itemsFrom?_eq header.pattern.automaton _ false (Nat.zero_le _) hfuel

end Bytes

theorem Span.Ordered.inBytes {text : Text} {low high : Nat} {spans : List Span}
    (h : Ordered low high spans) (hhigh : high ≤ text.length) :
    Ordered (Text.byteSize (text.take low)) (Text.byteSize (text.take high))
      (spans.map (·.inBytes (Text.byteOffsets text))) := by
  induction spans generalizing low with
  | nil => exact Text.byteSize_take_le h
  | cons span more ih =>
    obtain ⟨hstart, hstop, hmore⟩ := h
    have hend := hmore.le
    rw [List.map_cons, Span.inBytes_eq (by omega) (by omega)]
    exact ⟨Text.byteSize_take_le hstart, Text.byteSize_take_le hstop, ih hmore⟩

theorem Replaced.eq_of_id {pos : Nat} {text out : Text} {spans : List Span}
    (h : Replaced id pos text spans out) : out = text := by
  induction h with
  | rest pos kept => rfl
  | span gap covered hstart hstop more ih => rw [ih, id]

def Side.place (side : Side) (span : Span) : Nat :=
  match side with
  | .before => span.start
  | .after => span.stop

theorem Bytes.insertAt?_place (text new : Text) (place : Nat) :
    insertAt? (String.ofList text) (String.ofList new) (Text.byteSize (text.take place)) =
      some (String.ofList (text.take place ++ new ++ text.drop place)) := by
  rw [insertAt?, slice?_take, slice?_drop]
  simp [String.ofList_append, String.append_assoc]

namespace Matcher

def byteSpans (matcher : Matcher) (text : Text) : List Span :=
  (matcher.spans text).map (·.inBytes (Text.byteOffsets text))

/-- The spans in bytes can be cut out of the string, and so can the gaps between them. The searches for
lines and for items that go from offset to offset never fail, and find these spans. -/
structure SafeToCut (matcher : Matcher) (text : Text) : Prop where
  ordered : Span.Ordered 0 (String.ofList text).utf8ByteSize (matcher.byteSpans text)
  valid : ∀ span ∈ matcher.byteSpans text,
    String.Pos.Raw.IsValid (String.ofList text) ⟨span.start⟩ ∧
      String.Pos.Raw.IsValid (String.ofList text) ⟨span.stop⟩
  nonempty : matcher.isRegex = false → ∀ span ∈ matcher.byteSpans text, span.start < span.stop
  lines : ∀ block, matcher = .lines block →
    Bytes.lineSpans? (String.ofList text) (blockText block) = some (matcher.byteSpans text)
  items : ∀ header, matcher = .braced header →
    Bytes.items? header.pattern.automaton (String.ofList text) = some (matcher.byteSpans text)
  joined : Bytes.spliceFrom? id (String.ofList text) 0 (matcher.byteSpans text) =
    some (String.ofList text)
  spliced : ∀ (new : Replacement) (scope : Scope),
    Bytes.spliceFrom? new.acts (String.ofList text) 0 (scope.pick (matcher.byteSpans text)) =
      some (String.ofList (splice text (new.edits text (scope.pick (matcher.spans text)))))
  inserted : ∀ span, matcher.find? text = some span → ∀ (new : Text) (side : Side),
    Bytes.insertAt? (String.ofList text) (String.ofList new)
        (side.place (span.inBytes (Text.byteOffsets text))) =
      some (String.ofList (Rule.insertAt text new side span))

theorem spliceFrom?_byteSpans (matcher : Matcher) (text : Text) (new : Replacement) (scope : Scope) :
    Bytes.spliceFrom? new.acts (String.ofList text) 0 (scope.pick (matcher.byteSpans text)) =
      some (String.ofList (splice text (new.edits text (scope.pick (matcher.spans text))))) := by
  have hordered := (matcher.spans_ordered text).pick scope
  have hreplaced := Replaced.of_spliceFrom new.acts (List.nil_append text).symm hordered
  rw [byteSpans, Scope.pick_map]
  exact hreplaced.spliceFrom? rfl (List.nil_append text).symm

/-- The spans of every matcher in every text are safe to cut. -/
theorem spans_safe_to_cut (matcher : Matcher) (text : Text) : matcher.SafeToCut text := by
  have hordered := matcher.spans_ordered text
  have hbytes : ∀ span ∈ matcher.spans text, span.inBytes (Text.byteOffsets text) =
      ⟨Text.byteSize (text.take span.start), Text.byteSize (text.take span.stop)⟩ := by
    intro span hspan
    have := hordered.bounds hspan
    exact Span.inBytes_eq (by omega) (by omega)
  refine ⟨?ordered, ?valid, ?nonempty, ?lines, ?items, ?joined, ?spliced, ?inserted⟩
  case ordered =>
    have hall := hordered.inBytes (Nat.le_refl text.length)
    rw [List.take_length, List.take_zero, Text.byteSize_nil, ← Text.utf8ByteSize_ofList] at hall
    exact hall
  case valid =>
    intro span hspan
    obtain ⟨found, hfound, rfl⟩ := List.mem_map.mp hspan
    rw [hbytes found hfound]
    exact ⟨Bytes.isValid_place text found.start, Bytes.isValid_place text found.stop⟩
  case nonempty =>
    intro hmatcher span hspan
    obtain ⟨found, hfound, rfl⟩ := List.mem_map.mp hspan
    have := hordered.bounds hfound
    rw [hbytes found hfound]
    exact Text.byteSize_take_lt (lt_of_mem_spans hmatcher hfound) this.2.2
  case lines =>
    rintro block rfl
    exact Bytes.lineSpans?_eq text (blockText block)
  case items =>
    rintro header rfl
    exact Bytes.items?_eq header text
  case joined =>
    have hreplaced := Replaced.of_spliceFrom id (List.nil_append text).symm hordered
    have hcut := hreplaced.spliceFrom? rfl (List.nil_append text).symm
    rw [hreplaced.eq_of_id] at hcut
    exact hcut
  case spliced => exact matcher.spliceFrom?_byteSpans text
  case inserted =>
    intro span hfind new side
    rw [find?_eq_head?] at hfind
    rw [hbytes span (List.mem_of_mem_head? hfind)]
    cases side with
    | before => exact Bytes.insertAt?_place text new span.start
    | after => exact Bytes.insertAt?_place text new span.stop

end Matcher

end Recast
