import PinPrinter.FileBuffer

/-! # Buffering loses nothing

Whatever block a piece falls into, what has been written to a file is all that was written before,
with the piece behind it.
-/

namespace PinPrinter.FileBuffer

@[simp] theorem contents_write (b : FileBuffer) (piece : ByteArray) :
    (b.write piece).contents = b.contents ++ piece := by
  obtain ⟨written, pending⟩ := b
  by_cases fits : pending.size + piece.size ≤ blockSize
  · simp only [write, if_pos fits, contents, ByteArray.append_assoc]
  · by_cases small : piece.size < blockSize
    · simp only [write, if_neg fits, if_pos small, contents]
    · simp only [write, if_neg fits, if_neg small, contents, ByteArray.append_empty]

@[simp] theorem contents_writeByte (b : FileBuffer) (byte : UInt8) :
    (b.writeByte byte).contents = b.contents.push byte := by
  obtain ⟨written, pending⟩ := b
  have pushed (bytes : ByteArray) : bytes.push byte = bytes ++ ByteArray.empty.push byte := by
    apply ByteArray.ext
    simp [ByteArray.data_push]
  by_cases fits : pending.size < blockSize
  · simp only [writeByte, if_pos fits, contents]
    rw [pushed, pushed (written ++ pending), ByteArray.append_assoc]
  · simp only [writeByte, if_neg fits, contents, ← pushed]

theorem contents_writeTexts (b : FileBuffer) (texts : List String) :
    (b.writeTexts texts).contents.data.toList =
      b.contents.data.toList ++ texts.flatMap fun text => text.toUTF8.data.toList := by
  induction texts generalizing b with
  | nil => simp [writeTexts]
  | cons text rest ih =>
    have step : b.writeTexts (text :: rest) = (b.writeText text).writeTexts rest := rfl
    rw [step, ih, writeText, contents_write]
    simp only [ByteArray.data_append, Array.toList_append, List.flatMap_cons, List.append_assoc]

theorem contents_writeBytes (b : FileBuffer) (bytes : Array UInt8) :
    (b.writeBytes bytes).contents.data.toList = b.contents.data.toList ++ bytes.toList := by
  rw [writeBytes, ← Array.foldl_toList]
  generalize bytes.toList = more
  induction more generalizing b with
  | nil => simp
  | cons byte rest ih =>
    rw [List.foldl_cons, ih, contents_writeByte]
    simp [ByteArray.data_push]

end PinPrinter.FileBuffer
