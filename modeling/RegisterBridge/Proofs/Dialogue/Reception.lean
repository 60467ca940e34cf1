import RegisterBridge.Proofs.Dialogue.Exchange

/-!
# Reception of one answer

What the bytes of an answer look like on the wire, and what the parts of the
answer dialogue make of them when the stream gives them in the reads that are
made for them.
-/

namespace RegisterBridge

namespace Answer

/-- The bytes of an answer on the wire, split after its header: the bytes of a
command with the same fields, and one more of any value if those, with the four of
the header, fill packets of 64 bytes to the end. -/
structure Image (answer : Answer) (header body : List UInt8) : Prop where
  fits : answer.payload.length ≤ maxFrameLength
  split : header.length = headerSize
  padded : ∃ padding : List UInt8,
    header ++ body = Command.encode ⟨answer.tag, answer.address, answer.payload⟩ ++ padding ∧
      padding.length = if (4 + answer.payload.length) % 64 = 0 then 1 else 0

variable {answer : Answer} {header body : List UInt8}

/-- The header is the front of the command, and the body is the payload with its
padding. -/
theorem Image.parts (image : answer.Image header body) :
    header = answer.tag.byte :: bigEndian16 answer.payload.length ++ [answer.address] ∧
      ∃ padding, body = answer.payload ++ padding ∧
        padding.length = if (4 + answer.payload.length) % 64 = 0 then 1 else 0 := by
  obtain ⟨padding, bytes_eq, padding_length⟩ := image.padded
  have regrouped : header ++ body =
      (answer.tag.byte :: bigEndian16 answer.payload.length ++ [answer.address]) ++
        (answer.payload ++ padding) := by
    rw [bytes_eq]
    simp [Command.encode]
  obtain ⟨header_eq, body_eq⟩ := List.append_inj regrouped image.split
  exact ⟨header_eq, padding, body_eq, padding_length⟩

/-- A poll that reads the header finds it. -/
theorem Image.poll_eq (image : answer.Image header body) :
    Poll.ofBytes header =
      .found answer.tag ⟨answer.tag.byte, answer.payload.length, answer.address⟩ := by
  have length_eq := toNat_bigEndian16 image.fits
  rw [image.parts.1]
  simp only [bigEndian16, List.cons_append, List.nil_append, Poll.ofBytes, Tag.ofByte?_byte,
    Header.decode, length_eq]

theorem Image.take_body (image : answer.Image header body) :
    body.take answer.payload.length = answer.payload := by
  obtain ⟨_, padding, rfl, _⟩ := image.parts
  exact List.take_left

/-- The body is as long as what is read after the header. -/
theorem Image.length_body (image : answer.Image header body) :
    body.length = answerReadLength answer.payload.length := by
  obtain ⟨_, padding, rfl, padding_length⟩ := image.parts
  rw [List.length_append, padding_length, answerReadLength_eq]
  split <;> rfl

end Answer

namespace Dialogue

variable {σ : Type} [ByteStream σ] {answer : Answer} {header body : List UInt8}

/-- A header that is read in one poll is found. -/
theorem runOn_awaitHeader_found (image : answer.Image header body) {stream next : σ}
    (read_eq : ByteStream.read stream header.length = (.ok header, next)) {attempts : Nat}
    (left : attempts ≠ 0) :
    (awaitHeader attempts).runOn stream =
      (.ok (answer.tag, ⟨answer.tag.byte, answer.payload.length, answer.address⟩), next) := by
  obtain ⟨attempts, rfl⟩ := Nat.exists_eq_succ_of_ne_zero left
  rw [image.split] at read_eq
  rw [awaitHeader, runOn_poll, read_eq]
  simp [image.poll_eq]

/-- A body that is read at once makes the answer, if it is not too large.  Nothing
is read for an empty one. -/
theorem runOn_rest_of_le (image : answer.Image header body)
    (small : answer.payload.length ≤ maxAnswerPayload) {stream next : σ}
    (read_eq : body ≠ [] → ByteStream.read stream body.length = (.ok body, next))
    (unread : body = [] → stream = next) :
    (rest answer.tag ⟨answer.tag.byte, answer.payload.length, answer.address⟩).runOn stream =
      (.ok answer, next) := by
  have payload_eq := image.take_body
  rw [rest, if_pos small, Dialogue.body]
  dsimp only
  rw [← image.length_body]
  by_cases empty : body = []
  · rw [empty, List.take_nil] at payload_eq
    rw [if_pos (by rw [empty]; rfl), runOn_done, unread empty, payload_eq]
  · have missing : body.length ≠ 0 := fun none => empty (List.length_eq_zero_iff.mp none)
    rw [if_neg missing, runOn_fetch (read_eq empty) rfl]
    simp [payload_eq]

end Dialogue

end RegisterBridge
