/-
# Text cells are an exact codec

What a text leaves in a cell, and what a reader makes of any buffer.  In each of the three widths a
text without NUL is stored as its units with one zero behind them, and a text is read off a buffer
just when the units before the first zero are the units of that text.  A text that holds NUL is
refused before anything is freed, so that the cell stays as it was.

Main statement: `text_codec`.
-/
import RuntimeBridge.Cell.Change
import RuntimeBridge.Proofs.Cell.Payload
import RuntimeBridge.Proofs.Text.Decoding
namespace RuntimeBridge

/-! ## 1. Buffers -/

namespace TextBuffer

/-- The units of a text, with no zero behind them. -/
def encoding (w : Width) (s : String) : TextBuffer :=
  match w with
  | .w8 => octets (Utf8.encode s)
  | .w16 => pairs (Utf16.encode s)
  | .w32 => numbers (CodePoint.encode s)

/-- The units, and one zero behind them. -/
def terminated : TextBuffer → TextBuffer
  | octets us => octets (us ++ [0])
  | pairs us => pairs (us ++ [0])
  | numbers us => numbers (us ++ [0])

/-- In the narrowest width these are the octets that the text itself is kept in. -/
theorem encoding_w8 (s : String) : encoding .w8 s = octets s.toUTF8.data.toList := by
  rw [encoding, Utf8.encode_eq_toUTF8]

theorem ofText_eq_terminated (w : Width) (s : String) :
    ofText w s = (encoding w s).terminated := by
  cases w <;> rfl

/-- **A buffer holds a text just when its units before the first zero are those of the text.** -/
theorem text?_eq_some_iff (b : TextBuffer) (s : String) :
    b.text? = some s ↔ b.visible = encoding b.width s := by
  cases b with
  | octets us => simp only [text?, visible, width, encoding, octets.injEq, Utf8.decode?_eq_some_iff]
  | pairs us => simp only [text?, visible, width, encoding, pairs.injEq, Utf16.decode?_eq_some_iff]
  | numbers us =>
    simp only [text?, visible, width, encoding, numbers.injEq, CodePoint.decode?_eq_some_iff]

end TextBuffer

theorem holdsNul_iff (s : String) : holdsNul s = true ↔ '\x00' ∈ s.toList := by
  simp [holdsNul]

/-! ## 2. Cells -/

/-- A text cell with this buffer. -/
def Cell.ofBuffer (b : TextBuffer) (owned : Bool) : Cell :=
  .plain (.ofKind (.string b.width)) (.text b) owned

theorem Cell.text?_ofBuffer (b : TextBuffer) (owned : Bool) :
    (ofBuffer b owned).text? = b.text? := by
  have kind : (ofBuffer b owned).tag.kind? = some (.string b.width) := TypeTag.kind?_ofKind _
  simp only [text?, kind]
  simp only [ofBuffer, beq_self_eq_true, if_true]

theorem Cell.ofText_eq_ofBuffer (w : Width) (s : String) :
    ofText w s = ofBuffer (TextBuffer.encoding w s).terminated true := by
  rw [ofText, ofBuffer, ← TextBuffer.ofText_eq_terminated, TextBuffer.width_ofText]

/-- Putting a text without NUL into a cell frees what the cell held and stores the units of the
text. -/
theorem apply_setText_of_not_mem (width : Width) {s : String} (plain : '\x00' ∉ s.toList) (c : Cell)
    (w : World) :
    (CellChange.setText width s).apply c w =
      ⟨.ok (), .ofBuffer (TextBuffer.encoding width s).terminated true, w.freeCell c⟩ := by
  have absent : holdsNul s = false := by rwa [← Bool.not_eq_true, holdsNul_iff]
  simp only [CellChange.apply, Cell.setText?, absent, Bool.false_eq_true, if_false, CellChange.done,
    Cell.replace, Cell.ofText_eq_ofBuffer]

/-- A text that holds NUL is refused, and neither the cell nor what it owns is touched. -/
theorem apply_setText_of_mem (width : Width) {s : String} (nul : '\x00' ∈ s.toList) (c : Cell)
    (w : World) : (CellChange.setText width s).apply c w = ⟨.error .interiorNul, c, w⟩ := by
  simp only [CellChange.apply, Cell.setText?, (holdsNul_iff s).mpr nul, if_true]

/-- **Text cells are an exact codec** in each width: a text without NUL is stored as its units with
one zero behind them and is read back; a text that holds NUL leaves the cell as it was; and from any
buffer a text is read just when the units before the first zero are the units of that text. -/
theorem text_codec (width : Width) :
    (∀ (s : String) (c : Cell) (w : World), '\x00' ∉ s.toList →
      (CellChange.setText width s).apply c w =
        ⟨.ok (), .ofBuffer (TextBuffer.encoding width s).terminated true, w.freeCell c⟩ ∧
      (Cell.ofBuffer (TextBuffer.encoding width s).terminated true).text? = some s) ∧
    (∀ (s : String) (c : Cell) (w : World), '\x00' ∈ s.toList →
      (CellChange.setText width s).apply c w = ⟨.error .interiorNul, c, w⟩) ∧
    ∀ (b : TextBuffer) (owned : Bool), b.width = width →
      (∀ t, (Cell.ofBuffer b owned).text? = some t ↔ b.visible = TextBuffer.encoding width t) ∧
      ((Cell.ofBuffer b owned).text? = none ↔ ∀ t, b.visible ≠ TextBuffer.encoding width t) := by
  refine ⟨fun s c w plain => ⟨apply_setText_of_not_mem width plain c w, ?_⟩,
    fun s c w nul => apply_setText_of_mem width nul c w, ?_⟩
  · have absent : holdsNul s = false := by rwa [← Bool.not_eq_true, holdsNul_iff]
    rw [Cell.text?_ofBuffer, ← TextBuffer.ofText_eq_terminated]
    exact TextBuffer.text?_ofText width absent
  · rintro b owned rfl
    have read : ∀ t, (Cell.ofBuffer b owned).text? = some t ↔
        b.visible = TextBuffer.encoding b.width t := fun t => by
      rw [Cell.text?_ofBuffer, TextBuffer.text?_eq_some_iff]
    refine ⟨read, ?_⟩
    simp only [Option.eq_none_iff_forall_ne_some, ne_eq, read]

/-- Two octets and a zero for a text of one character; a text that holds NUL refused; and the longer
form of a slash, in which no text is found. -/
theorem text_codec_accent :
    (CellChange.setText .w8 "é").apply .null {} =
        ⟨.ok (), .ofBuffer (.octets [0xC3, 0xA9, 0]) true, {}⟩ ∧
      (Cell.ofBuffer (.octets [0xC3, 0xA9, 0]) true).text? = some "é" ∧
      (CellChange.setText .w8 "\x00").apply .null {} = ⟨.error .interiorNul, .null, {}⟩ ∧
      (Cell.ofBuffer (.octets [0xC0, 0xAF, 0]) false).text? ≠ some "/" := by
  obtain ⟨stored, refused, read⟩ := text_codec .w8
  have accent := stored "é" .null {} (by decide)
  refine ⟨accent.1, accent.2, refused "\x00" .null {} (by decide), ?_⟩
  rw [Ne, (read (.octets [0xC0, 0xAF, 0]) false rfl).1]
  decide

end RuntimeBridge
