import Formulary.Proofs.Text.Utf8
import Formulary.Template.Upload

/-!
What of an upload becomes a template: everything but one byte-order mark in front, where the upload
is no archive, is well-formed UTF-8 and has more in it than white space. Of other octets the fault
tells where they stop being text, and whether they only end too early.
-/

namespace Formulary.Template

open Text

/-- The octets of the character that marks a text as one of Unicode. -/
def byteOrderMark : List UInt8 := [0xEF, 0xBB, 0xBF]

/-- Octets without a byte-order mark in front, if there is one; a second one is text. -/
def withoutMark (bytes : List UInt8) : List UInt8 :=
  if byteOrderMark <+: bytes then bytes.drop byteOrderMark.length else bytes

theorem toUtf8_ofList_cons (c : Char) (cs : List Char) :
    toUtf8 (String.ofList (c :: cs)) = String.utf8EncodeChar c ++ toUtf8 (String.ofList cs) := by
  simp only [toUtf8, String.toList_ofList, List.flatMap_cons]

/-- Only a text with the mark in front has the octets of the mark in front. -/
theorem eq_mark_of_front {c : Char} {cs : List Char}
    (front : byteOrderMark <+: toUtf8 (String.ofList (c :: cs))) : c = '\ufeff' := by
  obtain ⟨rest, whole⟩ := front
  have read := ofUtf8_eq_ok_iff.2 whole.symm
  have mark : byteOrderMark = String.utf8EncodeChar '\ufeff' := by decide
  rw [ofUtf8, mark, readUtf8_character (isCharacter_encode _), Char.ofNat_toNat] at read
  obtain ⟨chars, read, same⟩ := map_eq_ok read
  obtain ⟨behind, -, rfl⟩ := map_eq_ok read
  exact (List.cons.inj (String.ofList_injective same)).1.symm

/-- The mark goes from a text as its octets go from those of the text. -/
theorem toUtf8_dropByteOrderMark (s : String) :
    toUtf8 (dropByteOrderMark s) = withoutMark (toUtf8 s) := by
  rw [← String.ofList_toList (s := s)]
  generalize s.toList = cs
  unfold dropByteOrderMark withoutMark
  rw [String.toList_ofList]
  split
  · next rest =>
    rw [toUtf8_ofList_cons]
    exact (if_pos (List.prefix_append _ _)).symm
  · next unmarked =>
    rw [if_neg]
    intro front
    cases cs with
    | nil => exact absurd front (by decide)
    | cons c cs => exact unmarked cs (by rw [eq_mark_of_front front])

section

variable {bytes : List UInt8} {html : String} {fault : Utf8Fault}

/-! The checks in their order. -/

theorem ofUpload_of_archive (h : archiveMark <+: bytes) : ofUpload bytes = .error .archive := by
  rw [ofUpload, if_pos (List.isPrefixOf_iff_prefix.2 h)]

theorem ofUpload_of_fault (plain : ¬ archiveMark <+: bytes) (h : ofUtf8 bytes = .error fault) :
    ofUpload bytes = .error (.notText fault) := by
  rw [ofUpload, if_neg (mt List.isPrefixOf_iff_prefix.1 plain), h]

theorem ofUpload_of_text (plain : ¬ archiveMark <+: bytes) {s : String} (h : toUtf8 s = bytes) :
    ofUpload bytes =
      if allBlank (dropByteOrderMark s) then .error .blank else .ok (dropByteOrderMark s) := by
  rw [ofUpload, if_neg (mt List.isPrefixOf_iff_prefix.1 plain), ofUtf8_eq_ok_iff.2 h]

theorem ofUpload_eq_ok_iff : ofUpload bytes = .ok html ↔
    ¬ archiveMark <+: bytes ∧ WellFormed bytes ∧ toUtf8 html = withoutMark bytes ∧
      ∃ c ∈ html.toList, isBlank c = false := by
  have hasMore : (∃ c ∈ html.toList, isBlank c = false) ↔ allBlank html = false := by
    simp [allBlank]
  rw [hasMore]
  by_cases plain : archiveMark <+: bytes
  · simp [ofUpload_of_archive plain, plain]
  rcases ofUtf8_cases bytes with ⟨formed, s, rfl⟩ | ⟨illFormed, fault, refused⟩
  · rw [ofUpload_of_text plain rfl, ← toUtf8_dropByteOrderMark, toUtf8_inj]
    cases blank : allBlank (dropByteOrderMark s) with
    | true =>
      simp only [if_true, reduceCtorEq, false_iff]
      rintro ⟨-, -, rfl, shown⟩
      exact absurd (blank.symm.trans shown) (by decide)
    | false =>
      simp only [Bool.false_eq_true, if_false, Except.ok.injEq]
      constructor
      · rintro rfl
        exact ⟨plain, formed, rfl, blank⟩
      · rintro ⟨-, -, rfl, -⟩
        rfl
  · simp [ofUpload_of_fault plain refused, illFormed]

theorem ofUpload_eq_notText_iff : ofUpload bytes = .error (.notText fault) ↔
    ¬ archiveMark <+: bytes ∧ ofUtf8 bytes = .error fault := by
  by_cases plain : archiveMark <+: bytes
  · simp [ofUpload_of_archive plain, plain]
  rcases ofUtf8_cases bytes with ⟨-, s, hs⟩ | ⟨-, other, refused⟩
  · rw [ofUpload_of_text plain hs, ofUtf8_eq_ok_iff.2 hs]
    split <;> simp
  · simp [ofUpload_of_fault plain refused, refused, plain]

end

/-- An upload is taken just in case it is no archive, is well-formed UTF-8 and holds more than a
byte-order mark and white space; what is taken is all of it but the mark. Where octets are not well
formed, the fault tells the length of the longest well-formed part in front; it says that they are
incomplete just in case others behind them would make them well formed. -/
theorem uploads_are_texts (bytes : List UInt8) :
    ((∃ html, ofUpload bytes = .ok html) ↔ ¬ archiveMark <+: bytes ∧ WellFormed bytes ∧
      ∃ s, toUtf8 s = withoutMark bytes ∧ ∃ c ∈ s.toList, isBlank c = false) ∧
    (∀ html, ofUpload bytes = .ok html → toUtf8 html = withoutMark bytes) ∧
    ((∃ fault, ofUpload bytes = .error (.notText fault)) ↔
      ¬ archiveMark <+: bytes ∧ ¬ WellFormed bytes) ∧
    ∀ fault, ofUpload bytes = .error (.notText fault) →
      WellFormedUpTo bytes fault.validUpTo ∧
      (UploadFault.notText fault).message =
        "not a valid document: not UTF-8 text (" ++ fault.message ++ ")" ∧
      (fault.message = "incomplete utf-8 byte sequence from index " ++ toString fault.validUpTo ↔
        ∃ more, WellFormed (bytes ++ more)) ∧
      ((¬ ∃ more, WellFormed (bytes ++ more)) →
        ∃ n : Nat, fault.message = "invalid utf-8 sequence of " ++ toString n ++
          " bytes from index " ++ toString fault.validUpTo) := by
  refine ⟨?_, fun html taken => (ofUpload_eq_ok_iff.1 taken).2.2.1, ?_, fun fault refused => ?_⟩
  · simp only [ofUpload_eq_ok_iff, exists_and_left]
  · simp only [ofUpload_eq_notText_iff, exists_and_left]
    refine and_congr_right fun _ => ?_
    rcases ofUtf8_cases bytes with ⟨formed, s, hs⟩ | ⟨illFormed, unread⟩
    · simp [formed, ofUtf8_eq_ok_iff.2 hs]
    · exact iff_of_true unread illFormed
  · obtain ⟨upTo, completable⟩ := of_ofUtf8_eq_error (ofUpload_eq_notText_iff.1 refused).2
    refine ⟨upTo, rfl, message_eq_incomplete_iff.trans completable, fun never => ?_⟩
    obtain ⟨validUpTo, badLength⟩ := fault
    cases badLength with
    | none => exact absurd (completable.1 rfl) never
    | some n => exact ⟨n, rfl⟩

/-- Of two marks one goes; three octets of a smiling face want a fourth; the octets of a surrogate
want nothing. -/
theorem uploads_are_texts_two_marks :
    let marked : List UInt8 := [0xEF, 0xBB, 0xBF, 0xEF, 0xBB, 0xBF, 0x20]
    let early : List UInt8 := [0x61, 0xF0, 0x9F, 0x98]
    let surrogate : List UInt8 := [0x61, 0xED, 0xA0, 0x80, 0x61]
    ofUpload marked = .ok "\ufeff " ∧ toUtf8 "\ufeff " = withoutMark marked ∧
    ofUpload early = .error (.notText ⟨1, none⟩) ∧ WellFormedUpTo early 1 ∧
    (∃ more, WellFormed (early ++ more)) ∧
    ofUpload surrogate = .error (.notText ⟨1, some 1⟩) ∧ WellFormedUpTo surrogate 1 ∧
    (¬ ∃ more, WellFormed (surrogate ++ more)) ∧
    ∃ n : Nat, (Utf8Fault.mk 1 (some 1)).message =
      "invalid utf-8 sequence of " ++ toString n ++ " bytes from index " ++ toString 1 := by
  intro marked early surrogate
  have taken : ofUpload marked = .ok "\ufeff " := rfl
  have endsEarly : ofUpload early = .error (.notText ⟨1, none⟩) := rfl
  have refused : ofUpload surrogate = .error (.notText ⟨1, some 1⟩) := rfl
  obtain ⟨upTo, -, completable, -⟩ := (uploads_are_texts early).2.2.2 _ endsEarly
  obtain ⟨upTo', -, completable', invalid⟩ := (uploads_are_texts surrogate).2.2.2 _ refused
  have never : ¬ ∃ more, WellFormed (surrogate ++ more) := fun more =>
    absurd (completable'.2 more) (by decide +kernel)
  exact ⟨taken, (uploads_are_texts marked).2.1 _ taken, endsEarly, upTo, completable.1 rfl, refused,
    upTo', never, invalid never⟩

end Formulary.Template
