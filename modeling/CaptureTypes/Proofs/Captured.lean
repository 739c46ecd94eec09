/-
# The text between two places

A capture is a range in bytes, and its value is cut out of the text at these
bytes.  What a search finds are ranges between places of the text, so the
cuts are on boundaries of characters and nothing is lost at them: the bytes of
the value are those of the text in the range (`Spans.isPart`).
-/
import CaptureTypes.Match.Capture
import CaptureTypes.Proofs.Chronicle

namespace CaptureTypes

namespace Text

/-! ## Cuts -/

theorem byteLength_eq (cs : List Char) : byteLength cs = (String.ofList cs).utf8ByteSize := by
  induction cs with
  | nil => rfl
  | cons c cs ih =>
      have hcons : String.ofList (c :: cs) = String.singleton c ++ String.ofList cs := by
        rw [String.singleton_eq_ofList, ← String.ofList_append]
        rfl
      rw [byteLength, ih, hcons, String.utf8ByteSize_append, String.utf8ByteSize_singleton]

theorem dropBytes_append (before rest : List Char) :
    dropBytes (byteLength before) (before ++ rest) = rest := by
  induction before with
  | nil => cases rest <;> rfl
  | cons c before ih =>
      have hpos := c.utf8Size_pos
      rw [byteLength, List.cons_append, dropBytes, if_neg (by omega), Nat.add_sub_cancel_left, ih]

theorem takeBytes_append (part rest : List Char) :
    takeBytes (byteLength part) (part ++ rest) = part := by
  induction part with
  | nil =>
      cases rest with
      | nil => rfl
      | cons c rest => exact if_pos c.utf8Size_pos
  | cons c part ih =>
      rw [byteLength, List.cons_append, takeBytes, if_neg (by omega), Nat.add_sub_cancel_left, ih]

/-- What stands between two cuts. -/
theorem slice_append (before part rest : List Char) :
    slice (byteLength before) (byteLength before + byteLength part) (before ++ (part ++ rest)) =
      part := by
  rw [slice, Nat.add_sub_cancel_left, dropBytes_append, takeBytes_append]

/-- A text is the part of another one in a range of bytes, and the range is on boundaries of
characters. -/
structure IsPart (text : String) (range : Nat × Nat) (part : String) : Prop where
  start : String.Pos.Raw.IsValid text ⟨range.1⟩
  stop : String.Pos.Raw.IsValid text ⟨range.2⟩
  le : range.1 ≤ range.2
  bytes : part.toByteArray = text.toByteArray.extract range.1 range.2

theorem toByteArray_middle (before part after : String) :
    part.toByteArray = (before ++ (part ++ after)).toByteArray.extract before.utf8ByteSize
      (before.utf8ByteSize + part.utf8ByteSize) := by
  have hsize : (before.toByteArray.size + part.toByteArray.size) =
      before.utf8ByteSize + part.utf8ByteSize := by
    rw [String.size_toByteArray, String.size_toByteArray]
  rw [String.toByteArray_append, String.toByteArray_append, ← hsize, ← String.size_toByteArray,
    ← Nat.add_zero before.toByteArray.size, Nat.add_assoc, ByteArray.extract_append_size_add,
    Nat.zero_add, ByteArray.extract_append_eq_left]
  rfl

end Text

namespace Pattern

/-! ## Captures -/

/-- **The value of a capture.**  Between two places of a text it is the part of the text there. -/
theorem Spot.Spans.isPart {text : String} {a b : Spot} {range : Nat × Nat}
    (h : a.Spans b range) (ha : (Spot.start text.toList).Reaches a) :
    Text.IsPart text range (⟨text, range.1, range.2⟩ : Capture).value := by
  obtain ⟨p, q, hap, hpq, -, rfl⟩ := h
  have hp := ha.trans hap
  obtain ⟨before, hbefore, hstart⟩ := hp.exists_between
  obtain ⟨part, hpart, hstop⟩ := hpq.exists_between
  -- the two places split the text in three
  have hlist : text.toList = before ++ (part ++ q.rest) := hpart ▸ hbefore
  have hpbytes : p.bytes = (String.ofList before).utf8ByteSize := hstart.trans (Nat.zero_add _)
  have htext : text = String.ofList before ++ (String.ofList part ++ String.ofList q.rest) := by
    rw [← String.ofList_append, ← String.ofList_append, ← hlist, String.ofList_toList]
  have hvalue : (⟨text, p.bytes, q.bytes⟩ : Capture).value = String.ofList part := by
    rw [Capture.value, hlist, hstop, hpbytes, ← Text.byteLength_eq, ← Text.byteLength_eq,
      Text.slice_append]
  have hbytes : (String.ofList part).toByteArray = text.toByteArray.extract p.bytes q.bytes := by
    rw [hstop, hpbytes, htext]
    exact Text.toByteArray_middle _ _ _
  exact ⟨hp.isValid, (hp.trans hpq).isValid, hpq.bytes_le, hvalue ▸ hbytes⟩

end Pattern

end CaptureTypes
