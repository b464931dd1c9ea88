import GlobOracle.Proofs.Classification

/-!
# Streams of bytes and streams of text

A stream may hold a text as it is or as the bytes that UTF-8 writes it in (`StreamForm`).  What is read from
it is the same text (`streamText_stream`), so the two forms, also one beside the other, lead to the same
outcome (`Outcome.bytes_and_text_agree`).  A complaint is what the error stream holds without the blanks
around it (`IsComplaintIn`), and the strict policy reports it word for word.
-/

namespace GlobOracle

open Text

/-- The form in which a stream holds a text. -/
inductive StreamForm where
  /-- The text as it is. -/
  | text
  /-- The bytes that UTF-8 writes the text in. -/
  | bytes

namespace StreamForm

/-- A stream that holds a text. -/
def stream (s : String) : StreamForm → Value
  | text => .text s
  | bytes => .bytes s.toUTF8.data.toList

end StreamForm

/-- The bytes of a string are its characters, written one after another. -/
theorem Text.Utf8.toUTF8_eq_encode (s : String) : s.toUTF8.data.toList = Utf8.encode s.toList := by
  have hwritten : s.toUTF8 = s.toList.utf8Encode := String.utf8Encode_toList.symm
  rw [hwritten, List.utf8Encode, List.toList_data_toByteArray]
  rfl

/-- **In either form the same text is read from a stream.** -/
theorem streamText_stream (form : StreamForm) (s : String) :
    streamText (form.stream s) = .ok (trimmed s) := by
  cases form with
  | text => rfl
  | bytes => rw [StreamForm.stream, streamText, Utf8.toUTF8_eq_encode, Utf8.decode_encode, trimmed]

/-- A complaint as it stands on the error stream: blanks are all that stands before and behind it, and it
begins and ends with characters that are none. -/
structure IsComplaintIn (errors complaint : String) : Prop where
  /-- Nothing but blanks stands around it. -/
  stands : ∃ before after, errors.toList = before ++ complaint.toList ++ after ∧
    (∀ c ∈ before, isBlank c = true) ∧ ∀ c ∈ after, isBlank c = true
  /-- It begins with a character that is not blank. -/
  first : ∃ c, complaint.toList.head? = some c ∧ isBlank c = false
  /-- It ends with a character that is not blank. -/
  last : ∃ c, complaint.toList.getLast? = some c ∧ isBlank c = false

/-- What is left of a text that is not blank is a complaint in it. -/
theorem isComplaintIn_trimmed {errors : String} (h : (trimmed errors).isEmpty = false) :
    IsComplaintIn errors (trimmed errors) := by
  have hcut : IsTrimmed isBlank errors.toList (trimmed errors).toList := by
    rw [trimmed, String.toList_ofList]
    exact isTrimmed_trimBy isBlank errors.toList
  have hleft : (trimmed errors).toList ≠ [] := by
    intro hnil
    rw [String.toList_eq_nil_iff.1 hnil] at h
    cases h
  refine ⟨hcut.pieces, ?_, ?_⟩
  · have hhead := List.head?_eq_some_head hleft
    exact ⟨_, hhead, hcut.head _ hhead⟩
  · have hlast := List.getLast?_eq_some_getLast hleft
    exact ⟨_, hlast, hcut.last _ hlast⟩

namespace Outcome

/-- An outcome is told by the texts that are read from the two streams. -/
theorem classify_of_streamText {output errors : Value} {printed complaint : String}
    (houtput : streamText output = .ok printed) (herrors : streamText errors = .ok complaint) :
    classify (.streams output errors) =
      .ok (if complaint.isEmpty then if printed.isEmpty then notMatched else matched
        else evaluationError complaint) := by
  rw [classify, herrors]
  show (if (!complaint.isEmpty) = true then Except.ok (evaluationError complaint)
    else streamText output >>= fun printed =>
      .ok (if printed.isEmpty = true then notMatched else matched)) = _
  rw [houtput]
  cases complaint.isEmpty <;> rfl

/-- **Bytes and text lead to the same outcome.**  Let the two streams hold texts, each as it is or in UTF-8.
The outcome does not depend on the forms.  It is a complaint exactly if the text of the errors is not blank,
and then the complaint is that text without the blanks around it; every strict record of options has it
reported as it is. -/
theorem bytes_and_text_agree (output errors : String) :
    ∃ outcome,
      (∀ form form' : StreamForm,
        classify (.streams (form.stream output) (form'.stream errors)) = .ok outcome) ∧
      (outcome.name = "evaluation_error" ↔ isBlankText errors = false) ∧
      (outcome.name = "evaluation_error" →
        IsComplaintIn errors outcome.message ∧
        ∀ o : Options, o.has .strictErrors = true →
          outcome.resolveUnder o.value = .error (.evaluation (.text outcome.message)) ∧
          (Failure.evaluation (.text outcome.message)).message = outcome.message) := by
  refine ⟨_, fun form form' =>
    classify_of_streamText (streamText_stream form output) (streamText_stream form' errors), ?_⟩
  rw [← isEmpty_trimmed errors]
  cases hempty : (trimmed errors).isEmpty with
  | true =>
      rw [if_pos rfl]
      cases (trimmed output).isEmpty <;> simp [name]
  | false =>
      rw [if_neg Bool.false_ne_true]
      refine ⟨⟨fun _ => rfl, fun _ => rfl⟩, fun _ => ⟨isComplaintIn_trimmed hempty, ?_⟩⟩
      intro o hstrict
      refine ⟨?_, rfl⟩
      show resolve (o.has .strictErrors) (evaluationError (trimmed errors)) = _
      rw [hstrict]
      rfl

/-- A complaint with a letter outside ASCII, in bytes beside an output in text, is reported without the line
end behind it. -/
theorem complaint_in_bytes_beside_text :
    classify (.streams (.text "true") (.bytes [0xC3, 0xA9, 0x63, 0x68, 0x65, 0x63, 0x0A])) =
      .ok (.evaluationError "échec") ∧
    resolveUnder (Options.defaults.set .strictErrors (.int 1)).value (.evaluationError "échec") =
      .error (.evaluation (.text "échec")) := by
  obtain ⟨outcome, hforms, -, hcomplaint⟩ := bytes_and_text_agree "true" "échec\n"
  have houtcome : outcome = .evaluationError "échec" :=
    Except.ok.inj ((hforms .text .text).symm.trans rfl)
  subst houtcome
  obtain ⟨-, hreported⟩ := hcomplaint rfl
  exact ⟨hforms .text .bytes, (hreported _ rfl).1⟩

end Outcome

end GlobOracle
