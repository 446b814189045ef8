import ReviewChannel.Proofs.IllFormed

/-!
What a message is, by its octets.

A client decides on the text that it reads; these statements are about the octets that came in.

* `Message.isReserved_decodeLossy_iff` — a text has the reserved beginning if its octets have it,
  and only then: nothing ill-formed is read as an underscore.
* `Message.text_classify` — a message carries the text that was read.
* `Message.classification_by_octets` — which octets are which message, what text it carries, and
  that a message is read again from the octets of its text.
-/

namespace ReviewChannel.Message

def reservedOctets : List UInt8 :=
  [0x5F, 0x5F]

theorem encodeChars_reserved : Utf8.encodeChars reserved = reservedOctets := by
  decide

/-- A text has the reserved beginning exactly if the octets that it was read from have it. -/
theorem isReserved_decodeLossy_iff (octets : List UInt8) :
    isReserved (Utf8.decodeLossy octets) = true ↔ reservedOctets <+: octets := by
  have clean : '\uFFFD' ∉ reserved := by decide
  rw [isReserved, List.isPrefixOf_iff_prefix, Utf8.decodeLossy, String.toList_ofList,
    Utf8.prefix_decodeChars_iff clean, encodeChars_reserved]

/-- A message carries the text that it is made of. -/
theorem text_ofText (text : String) : (ofText text).text = text := by
  unfold ofText
  by_cases reserved : isReserved text = true
  · rw [if_pos reserved]
    by_cases stop : text = stopText
    · rw [if_pos stop]
      exact stop.symm
    · rw [if_neg stop]
      rfl
  · rw [if_neg reserved]
    rfl

theorem text_classify (octets : List UInt8) :
    (classify octets).text = Utf8.decodeLossy octets :=
  text_ofText _

/-- A text is malformed if it has the reserved beginning and is no directive. -/
theorem exists_ofText_eq_malformed_iff (text : String) :
    (∃ carried, ofText text = malformed carried) ↔ isReserved text = true ∧ text ≠ stopText := by
  unfold ofText
  by_cases reserved : isReserved text = true
  · rw [if_pos reserved]
    by_cases stop : text = stopText
    · simp [stop]
    · simp [stop, reserved]
  · simp [reserved]

/-- A text without the reserved beginning is an identifier. -/
theorem exists_ofText_eq_identifier_iff (text : String) :
    (∃ carried, ofText text = identifier carried) ↔ ¬ isReserved text = true := by
  unfold ofText
  by_cases reserved : isReserved text = true
  · rw [if_pos reserved]
    by_cases stop : text = stopText
    · simpa [stop] using stop ▸ reserved
    · simp [stop, reserved]
  · simp [reserved]

/-- The octets of a message alone settle what it is.

* It is the stop directive for one spelling, malformed for all other octets with the reserved
  beginning, and an identifier for all others.
* It carries the one reading of the octets: each character from what is written for it, and each
  ill-formed part as one U+FFFD. So it carries the text itself if the octets are those of a text,
  and a beginning without U+FFFD comes from its own octets, never from ill-formed ones.
* The octets of the text that it carries are the same message again. -/
theorem classification_by_octets (octets : List UInt8) :
    let stop : List UInt8 := [0x5F, 0x5F, 0x73, 0x74, 0x6F, 0x70]
    let message := classify octets
    (message = .stopDirective ↔ octets = stop) ∧
      ((∃ text, message = .malformed text) ↔ reservedOctets <+: octets ∧ octets ≠ stop) ∧
      ((∃ text, message = .identifier text) ↔ ¬ reservedOctets <+: octets) ∧
      (∀ text, Utf8.ReadAs octets text ↔ text = message.text.toList) ∧
      (∀ text, octets = Utf8.encode text → message.text = text) ∧
      (∀ front : List Char, '\uFFFD' ∉ front →
        (front <+: message.text.toList ↔ Utf8.encodeChars front <+: octets)) ∧
      classify (Utf8.encode message.text) = message := by
  intro stop message
  have spelling : stopOctets = stop := by decide
  have directive : message = .stopDirective ↔ octets = stop :=
    spelling ▸ classify_eq_stopDirective_iff
  have carried : message.text = Utf8.decodeLossy octets := text_classify octets
  have chars : message.text.toList = Utf8.decodeChars octets := by
    rw [carried, Utf8.decodeLossy, String.toList_ofList]
  refine ⟨directive, ?_, ?_, ?_, ?_, ?_, ?_⟩
  · have same : Utf8.decodeLossy octets = stopText ↔ octets = stop :=
      ofText_eq_stopDirective_iff.symm.trans directive
    rw [← isReserved_decodeLossy_iff, Ne, ← same]
    exact exists_ofText_eq_malformed_iff _
  · rw [← isReserved_decodeLossy_iff]
    exact exists_ofText_eq_identifier_iff _
  · intro text
    rw [chars]
    exact Utf8.readAs_iff
  · rintro text rfl
    rw [carried, Utf8.decodeLossy_encode]
  · intro front clean
    rw [chars]
    exact Utf8.prefix_decodeChars_iff clean octets
  · rw [classify, Utf8.decodeLossy_encode, carried]
    rfl

/-- An overlong underscore and a surrogate are read as one U+FFFD for each octet, a character that
breaks off as one for all of it. -/
example :
    [[0xC1, 0x9F, 0x5F], [0xED, 0xA0, 0x80], [0x5F, 0xE2, 0x82, 0x5F]].map classify =
      [identifier "\uFFFD\uFFFD_", identifier "\uFFFD\uFFFD\uFFFD", identifier "_\uFFFD_"] := by
  decide

end ReviewChannel.Message
