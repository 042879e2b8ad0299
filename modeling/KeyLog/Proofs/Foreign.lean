import KeyLog.Foreign
import Mathlib.Data.List.TakeWhile

/-!
# What C hands over

A pointer that C hands over for a text may be null, and what it leads to may be no text.  Here is
said what a call makes of such arguments without saying how: a pointer *reads* as a text if the text
has the bytes before the first NUL byte, and otherwise it is *faulty*, with the number that the call
returns for it.  Of several arguments the first faulty one counts.

* `Foreign.reads_or_faulty`: a pointer reads as a text or is faulty.
* `Foreign.argument_eq_ok_iff`, `Foreign.argument_of_faulty`: what a call makes of a pointer.
* `Foreign.Status.code_eq_zero_iff`: only success has the number 0.
* `Foreign.firstFault_or_reads`: what a call finds in its arguments.
-/

namespace KeyLog

/-- The number of an error is not that of success. -/
theorem ErrorKind.code_ne_zero (kind : ErrorKind) : kind.code ≠ 0 := by
  cases kind <;> decide

namespace Foreign

/-- Only success has the number 0. -/
theorem Status.code_eq_zero_iff {status : Status} : status.code = 0 ↔ status = .ok := by
  cases status with
  | ok => exact iff_of_true rfl rfl
  | failed kind => exact iff_of_false kind.code_ne_zero (by simp)
  | iterationDone | nullArgument => decide

/-- The pointer leads to a text. -/
def Reads (argument : Option Bytes) (text : String) : Prop :=
  ∃ bytes, argument = some bytes ∧ Utf8.encode text = cString bytes

/-- The pointer leads to no text, and this is the number that is returned for it. -/
inductive Faulty : Option Bytes → Int → Prop where
  | null : Faulty none 20
  | encoding {bytes : Bytes} (h : ∀ text, Utf8.encode text ≠ cString bytes) :
    Faulty (some bytes) 30

/-- Of some arguments, in the order of the parameters, the first one that leads to no text is the
one for which this number is returned. -/
inductive FirstFault : List (Option Bytes) → Int → Prop where
  | here {argument : Option Bytes} {rest : List (Option Bytes)} {code : Int}
    (h : Faulty argument code) : FirstFault (argument :: rest) code
  | later {argument : Option Bytes} {rest : List (Option Bytes)} {code : Int} {text : String}
    (hreads : Reads argument text) (h : FirstFault rest code) : FirstFault (argument :: rest) code

variable {pointer : Option Bytes} {text : String} {code : Int}

/-- A text that is read from a pointer has no NUL byte. -/
theorem Reads.zero_notMem (h : Reads pointer text) : 0 ∉ Utf8.encode text := by
  obtain ⟨bytes, -, hencode⟩ := h
  rw [hencode]
  intro hmem
  have hne := List.mem_takeWhile_imp hmem
  exact absurd hne (by decide)

/-- **A call reads a text** from a pointer if and only if the pointer leads to it. -/
theorem argument_eq_ok_iff : argument pointer = .ok text ↔ Reads pointer text := by
  cases pointer with
  | none => simp [argument, Reads]
  | some bytes =>
    have hreads : Reads (some bytes) text ↔ Utf8.encode text = cString bytes := by
      simp [Reads]
    rw [hreads, ← Utf8.decode_eq_ok_iff, argument]
    split
    next hdecode => simp [hdecode]
    next hdecode => simp [hdecode]

/-- Two texts that are read from one pointer are the same. -/
theorem Reads.unique {other : String} (h : Reads pointer text) (hother : Reads pointer other) :
    text = other :=
  Except.ok.inj ((argument_eq_ok_iff.2 h).symm.trans (argument_eq_ok_iff.2 hother))

/-- **A call refuses a faulty pointer** with its number. -/
theorem argument_of_faulty (h : Faulty pointer code) :
    ∃ status, argument pointer = .error status ∧ status.code = code := by
  cases h with
  | null => exact ⟨.nullArgument, rfl, rfl⟩
  | @encoding bytes hnone =>
    refine ⟨.failed .invalidEncoding, ?_, rfl⟩
    cases hdecode : Utf8.decode (cString bytes) with
    | error fault => simp only [argument, hdecode]
    | ok text => exact absurd (Utf8.decode_eq_ok_iff.1 hdecode) (hnone text)

/-- What a pointer is refused with is not success. -/
theorem argument_ne_ok {status : Status} (h : argument pointer = .error status) : status ≠ .ok := by
  unfold argument at h
  split at h
  · cases h
    decide
  · split at h
    · cases h
      decide
    · cases h

/-- The number for a fault is not that of success. -/
theorem FirstFault.ne_zero {arguments : List (Option Bytes)} (h : FirstFault arguments code) :
    code ≠ 0 := by
  induction h with
  | here hfaulty => cases hfaulty <;> decide
  | later hreads hfault ih => exact ih

/-- **A pointer leads to a text or is faulty.** -/
theorem reads_or_faulty (pointer : Option Bytes) :
    (∃ text, Reads pointer text) ∨ ∃ code, Faulty pointer code := by
  cases pointer with
  | none => exact .inr ⟨20, .null⟩
  | some bytes =>
    by_cases htext : ∃ text, Utf8.encode text = cString bytes
    · obtain ⟨text, hencode⟩ := htext
      exact .inl ⟨text, bytes, rfl, hencode⟩
    · exact .inr ⟨30, .encoding fun text hencode => htext ⟨text, hencode⟩⟩

/-- **All arguments lead to texts, or there is a first one that does not.** -/
theorem firstFault_or_reads (arguments : List (Option Bytes)) :
    (∃ code, FirstFault arguments code) ∨ ∀ pointer ∈ arguments, ∃ text, Reads pointer text := by
  induction arguments with
  | nil => exact .inr fun pointer hpointer => absurd hpointer List.not_mem_nil
  | cons first rest ih =>
    rcases reads_or_faulty first with ⟨text, hreads⟩ | ⟨code, hfaulty⟩
    · rcases ih with ⟨code, hfault⟩ | hrest
      · exact .inl ⟨code, .later hreads hfault⟩
      · exact .inr (List.forall_mem_cons.2 ⟨⟨text, hreads⟩, hrest⟩)
    · exact .inl ⟨code, .here hfaulty⟩

end Foreign
end KeyLog
