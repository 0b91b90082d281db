import Recast.Proofs.Replacement
import Recast.Rule

/-! Offsets into the bytes of a string. A string is cut only where a character begins or ends, and a cut
anywhere else has no answer. The UTF-8 offsets of a text are such places, so spans that ascend can be
cut out of its string. -/

namespace Recast

namespace Text

theorem foldl_add (sizes : List Nat) (first : Nat) :
    sizes.foldl (· + ·) first = first + sizes.foldl (· + ·) 0 := by
  induction sizes generalizing first with
  | nil => rfl
  | cons size sizes ih =>
    rw [List.foldl_cons, List.foldl_cons, ih, ih (0 + size)]
    omega

@[simp]
theorem byteSize_nil : byteSize [] = 0 := rfl

theorem byteSize_cons (c : Char) (rest : Text) : byteSize (c :: rest) = c.utf8Size + byteSize rest := by
  rw [byteSize, List.map_cons, List.foldl_cons, foldl_add, Nat.zero_add]
  rfl

theorem byteSize_append (first second : Text) :
    byteSize (first ++ second) = byteSize first + byteSize second := by
  induction first with
  | nil => simp
  | cons c first ih =>
    rw [List.cons_append, byteSize_cons, byteSize_cons, ih]
    omega

theorem byteSize_pos {text : Text} (h : text ≠ []) : 0 < byteSize text := by
  obtain ⟨c, rest, rfl⟩ := List.exists_cons_of_ne_nil h
  have := c.utf8Size_pos
  rw [byteSize_cons]
  omega

theorem length_le_byteSize (text : Text) : text.length ≤ byteSize text := by
  induction text with
  | nil => exact Nat.le_refl 0
  | cons c rest ih =>
    have := c.utf8Size_pos
    rw [List.length_cons, byteSize_cons]
    omega

theorem byteSize_take_lt {text : Text} {first second : Nat} (h : first < second)
    (hend : second ≤ text.length) : byteSize (text.take first) < byteSize (text.take second) := by
  obtain ⟨between, rfl⟩ : ∃ between, second = first + between := ⟨second - first, by omega⟩
  have hne : (text.drop first).take between ≠ [] := by
    rw [← List.length_pos_iff, List.length_take, List.length_drop]
    omega
  have := byteSize_pos hne
  rw [List.take_add, byteSize_append]
  omega

theorem byteSize_take_le {text : Text} {first second : Nat} (h : first ≤ second) :
    byteSize (text.take first) ≤ byteSize (text.take second) := by
  obtain ⟨between, rfl⟩ : ∃ between, second = first + between := ⟨second - first, by omega⟩
  rw [List.take_add, byteSize_append]
  exact Nat.le_add_right _ _

theorem byteSize_take_max (text : Text) (first second : Nat) :
    byteSize (text.take (max first second)) =
      max (byteSize (text.take first)) (byteSize (text.take second)) := by
  rcases Nat.le_total first second with h | h
  · rw [Nat.max_eq_right h, Nat.max_eq_right (byteSize_take_le h)]
  · rw [Nat.max_eq_left h, Nat.max_eq_left (byteSize_take_le h)]

theorem utf8ByteSize_ofList (text : Text) : (String.ofList text).utf8ByteSize = byteSize text := by
  induction text with
  | nil => rfl
  | cons c rest ih =>
    rw [String.ofList_cons, String.utf8ByteSize_append, String.utf8ByteSize_singleton, ih,
      byteSize_cons]

def addOffset (offsets : Array Nat) (c : Char) : Array Nat :=
  offsets.push (offsets.back?.getD 0 + c.utf8Size)

theorem foldl_addOffset_getD (text : Text) : ∀ {offsets : Array Nat} {last : Nat},
    offsets.back? = some last →
      (∀ place, place < offsets.size →
        (text.foldl addOffset offsets).getD place 0 = offsets.getD place 0) ∧
      ∀ n ≤ text.length,
        (text.foldl addOffset offsets).getD (offsets.size - 1 + n) 0 =
          last + byteSize (text.take n) := by
  induction text with
  | nil =>
    intro offsets last h
    refine ⟨fun _ _ => rfl, fun n hn => ?_⟩
    obtain rfl := Nat.le_zero.mp hn
    rw [Array.back?_eq_getElem?] at h
    simp [h]
  | cons c rest ih =>
    intro offsets last h
    have hback : (addOffset offsets c).back? = some (last + c.utf8Size) := by
      simp [addOffset, h]
    have hsize : (addOffset offsets c).size = offsets.size + 1 := by simp [addOffset]
    have hpos : 0 < offsets.size := by
      rw [Array.back?_eq_getElem?] at h
      have := (Array.getElem?_eq_some_iff.mp h).1
      omega
    obtain ⟨hbefore, hafter⟩ := ih hback
    rw [hsize, Nat.add_sub_cancel] at hafter
    rw [hsize] at hbefore
    rw [List.foldl_cons]
    have hold (place : Nat) (hplace : place < offsets.size) :
        (addOffset offsets c).getD place 0 = offsets.getD place 0 := by
      simp [addOffset, Array.getElem?_push, Nat.ne_of_lt hplace]
    refine ⟨fun place hplace => ?_, fun n hn => ?_⟩
    · rw [hbefore place (by omega), hold place hplace]
    · cases n with
      | zero =>
        rw [hbefore _ (by omega), hold _ (by omega), List.take_zero, byteSize_nil]
        rw [Array.back?_eq_getElem?] at h
        simp [h]
      | succ n =>
        rw [List.length_cons] at hn
        have hplace : offsets.size - 1 + (n + 1) = offsets.size + n := by omega
        rw [hplace, hafter n (by omega), List.take_succ_cons, byteSize_cons]
        omega

theorem byteOffsets_getD (text : Text) {place : Nat} (h : place ≤ text.length) :
    (byteOffsets text).getD place 0 = byteSize (text.take place) := by
  have hfirst : (#[0] : Array Nat).back? = some 0 := rfl
  have hplace : (#[0] : Array Nat).size - 1 + place = place := Nat.zero_add place
  have hfold := (foldl_addOffset_getD text hfirst).2 place h
  rw [hplace, Nat.zero_add] at hfold
  exact hfold

end Text

namespace Bytes

/-- The part of a string between two offsets. There is no answer if the offsets are out of order or if
one of them lies behind the end or inside a character. -/
def slice? (content : String) (start stop : Nat) : Option String :=
  if h : start ≤ stop ∧ String.Pos.Raw.IsValid content ⟨start⟩ ∧
      String.Pos.Raw.IsValid content ⟨stop⟩ then
    some (content.extract ⟨⟨start⟩, h.2.1⟩ ⟨⟨stop⟩, h.2.2⟩)
  else none

theorem isValid_append (front back : String) :
    String.Pos.Raw.IsValid (front ++ back) ⟨front.utf8ByteSize⟩ :=
  String.Pos.Raw.isValid_iff_exists_append.mpr ⟨front, back, rfl, rfl⟩

theorem isValid_place (text : Text) (place : Nat) :
    String.Pos.Raw.IsValid (String.ofList text) ⟨Text.byteSize (text.take place)⟩ := by
  have hvalid := isValid_append (String.ofList (text.take place)) (String.ofList (text.drop place))
  rwa [← String.ofList_append, List.take_append_drop, Text.utf8ByteSize_ofList] at hvalid

theorem slice?_append (front found after : String) :
    slice? (front ++ found ++ after) front.utf8ByteSize (front.utf8ByteSize + found.utf8ByteSize) =
      some found := by
  have hstart : String.Pos.Raw.IsValid (front ++ found ++ after) ⟨front.utf8ByteSize⟩ := by
    rw [String.append_assoc]
    exact isValid_append front (found ++ after)
  have hstop : String.Pos.Raw.IsValid (front ++ found ++ after)
      ⟨front.utf8ByteSize + found.utf8ByteSize⟩ := by
    rw [← String.utf8ByteSize_append]
    exact isValid_append (front ++ found) after
  have hfound : (front.toByteArray ++ found.toByteArray).extract front.utf8ByteSize
      (front.utf8ByteSize + found.utf8ByteSize) = found.toByteArray :=
    ByteArray.extract_append_eq_right rfl rfl
  rw [slice?, dif_pos ⟨Nat.le_add_right _ _, hstart, hstop⟩, Option.some.injEq,
    ← String.toByteArray_inj, String.toByteArray_extract, String.toByteArray_append,
    String.toByteArray_append, ByteArray.extract_append, hfound]
  simp

theorem slice?_ofList (front found after : Text) :
    slice? (String.ofList (front ++ (found ++ after))) (Text.byteSize front)
        (Text.byteSize front + Text.byteSize found) = some (String.ofList found) := by
  rw [← List.append_assoc, String.ofList_append, String.ofList_append, ← Text.utf8ByteSize_ofList,
    ← Text.utf8ByteSize_ofList]
  exact slice?_append _ _ _

theorem slice?_to_end (front after : Text) :
    slice? (String.ofList (front ++ after)) (Text.byteSize front)
        (String.ofList (front ++ after)).utf8ByteSize = some (String.ofList after) := by
  have hslice := slice?_ofList front after []
  rw [List.append_nil] at hslice
  rw [Text.utf8ByteSize_ofList, Text.byteSize_append]
  exact hslice

/-- Replaces spans, which are given in bytes, from an offset on. Every gap and every span is cut out of
the string. -/
def spliceFrom? (new : Text → Text) (content : String) : Nat → List Span → Option String
  | last, [] => slice? content last content.utf8ByteSize
  | last, span :: more => do
    let gap ← slice? content last span.start
    let covered ← slice? content span.start span.stop
    let rest ← spliceFrom? new content span.stop more
    pure (gap ++ String.ofList (new covered.toList) ++ rest)

def insertAt? (content new : String) (place : Nat) : Option String := do
  let front ← slice? content 0 place
  let back ← slice? content place content.utf8ByteSize
  pure (front ++ new ++ back)

end Bytes

theorem Span.inBytes_eq {span : Span} {text : Text} (hstart : span.start ≤ text.length)
    (hstop : span.stop ≤ text.length) :
    span.inBytes (Text.byteOffsets text) =
      ⟨Text.byteSize (text.take span.start), Text.byteSize (text.take span.stop)⟩ := by
  rw [inBytes, Text.byteOffsets_getD text hstart, Text.byteOffsets_getD text hstop]

theorem Span.inBytes_found (front found after : Text) :
    (Span.mk front.length (front.length + found.length)).inBytes
        (Text.byteOffsets (front ++ (found ++ after))) =
      ⟨Text.byteSize front, Text.byteSize front + Text.byteSize found⟩ := by
  have hstart : front.length ≤ (front ++ (found ++ after)).length := by simp
  have hstop : front.length + found.length ≤ (front ++ (found ++ after)).length := by simp
  rw [Span.inBytes_eq hstart hstop, List.take_left]
  simp [← List.append_assoc, Text.byteSize_append]

/-- Replacing spans of characters is replacing the same spans in bytes: every cut has an answer. -/
theorem Replaced.spliceFrom? {f : Text → Text} {text : Text} {spans : List Span} {pos : Nat}
    {rest out : Text} (h : Replaced f pos rest spans out) : ∀ {front : Text}, pos = front.length →
      text = front ++ rest →
      Bytes.spliceFrom? f (String.ofList text) (Text.byteSize front)
          (spans.map (·.inBytes (Text.byteOffsets text))) =
        some (String.ofList out) := by
  induction h with
  | rest pos kept =>
    rintro front - rfl
    exact Bytes.slice?_to_end front kept
  | @span pos start stop spans after out gap covered hstart hstop more ih =>
    intro front hpos htext
    have hplaces : start = (front ++ gap).length := by
      rw [List.length_append]
      omega
    have hpassed : stop = (front ++ gap ++ covered).length := by
      rw [List.length_append]
      omega
    have hbehind : text = front ++ gap ++ (covered ++ after) := by rw [htext, List.append_assoc]
    have hafter : text = front ++ gap ++ covered ++ after := by
      simp only [htext, List.append_assoc]
    have hspan : (Span.mk start stop).inBytes (Text.byteOffsets text) =
        ⟨Text.byteSize (front ++ gap), Text.byteSize (front ++ gap) + Text.byteSize covered⟩ := by
      rw [hstop, hplaces, hbehind]
      exact Span.inBytes_found (front ++ gap) covered after
    have hgap : Bytes.slice? (String.ofList text) (Text.byteSize front)
        (Text.byteSize (front ++ gap)) = some (String.ofList gap) := by
      rw [htext, Text.byteSize_append]
      exact Bytes.slice?_ofList front gap (covered ++ after)
    have hcovered : Bytes.slice? (String.ofList text) (Text.byteSize (front ++ gap))
        (Text.byteSize (front ++ gap) + Text.byteSize covered) = some (String.ofList covered) := by
      rw [hbehind]
      exact Bytes.slice?_ofList (front ++ gap) covered after
    have hout := ih hpassed hafter
    rw [Text.byteSize_append] at hout
    rw [List.map_cons, hspan, Bytes.spliceFrom?, hgap, hcovered, hout]
    simp [String.ofList_append, String.append_assoc]

end Recast
