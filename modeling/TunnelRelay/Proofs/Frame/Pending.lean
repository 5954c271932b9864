import TunnelRelay.Proofs.Frame.Bounds
import TunnelRelay.Proofs.Frame.Faults

/-!
How much a filtered writer can hold back.

Each element of a frame has few enough digits and few enough codepoints, of at most four bytes each,
and bounds allow only so many elements. So a frame that is not complete is shorter than the largest
one. Content is checked only at its terminator, but its first bytes tell its length, and they are
looked at as they come; so this holds whether or not the bytes turn out to be text.
-/

namespace TunnelRelay

/-- The bytes of an element of at most `longest` codepoints with its terminator. -/
def elementRoom (longest : Nat) : Nat :=
  maxLengthDigits + 1 + 4 * longest + 1

/-! ### Lengths -/

theorem readLength_incomplete {value digits : Nat} {rest : Bytes}
    (few : digits ≤ maxLengthDigits)
    (stopped : readLength value digits rest = .incomplete) :
    digits + rest.length ≤ maxLengthDigits := by
  induction rest generalizing value digits with
  | nil => exact few
  | cons byte rest ih =>
      rw [readLength] at stopped
      split at stopped
      · split at stopped
        · have later := ih (by omega) stopped
          rw [List.length_cons]
          omega
        · cases stopped
      · split at stopped
        · split at stopped <;> cases stopped
        · cases stopped

/-! ### Content -/

theorem sequenceWidth?_le {lead : UInt8} {width : Nat}
    (found : sequenceWidth? lead = some width) : width ≤ 4 := by
  unfold sequenceWidth? at found
  repeat' split at found
  all_goals cases found
  all_goals decide

/-- Each codepoint that is passed takes at most four bytes, and less than four
bytes are left of one that is not complete. -/
theorem passContent_extent {size missing : Nat} {rest : Bytes}
    {passed : Passed} (done : passContent size missing rest = .ok passed) :
    passed.size + 4 * passed.missing ≤ size + 4 * missing ∧
      (passed.missing ≠ 0 → passed.rest.length < 4) := by
  fun_induction passContent size missing rest with
  | case1 size rest =>
      cases done
      exact ⟨Nat.le_refl _, fun some => absurd rfl some⟩
  | case2 size missing =>
      cases done
      exact ⟨Nat.le_refl _, fun _ => Nat.zero_lt_succ 3⟩
  | case3 size missing lead rest noWidth => cases done
  | case4 size missing lead rest width found short =>
      cases done
      have narrow := sequenceWidth?_le found
      rw [Bytes.advance?_eq] at short
      split at short
      · cases short
      · refine ⟨Nat.le_refl _, fun _ => ?_⟩
        rw [List.length_cons]
        omega
  | case5 size missing lead rest width found after advanced ih =>
      have narrow := sequenceWidth?_le found
      obtain ⟨extent, left⟩ := ih done
      exact ⟨by omega, left⟩

theorem Passed.rest_of_incomplete {passed : Passed} {progress next : Progress}
    {content : Content} {body : Bytes}
    (stopped : passed.element progress content body = .incomplete next)
    (complete : passed.missing = 0) : passed.rest = [] := by
  unfold Passed.element at stopped
  simp only [if_pos complete] at stopped
  split at stopped
  · assumption
  · split at stopped
    · cases stopped
    · split at stopped
      · cases stopped
      · split at stopped <;> cases stopped

theorem closeElement_incomplete_length {progress next : Progress}
    {content : Content} {body rest : Bytes}
    (stopped : closeElement progress content body rest = .incomplete next) :
    rest.length ≤ 4 * content.missing := by
  rw [closeElement_eq] at stopped
  cases passing : passContent 0 content.missing rest with
  | error cause =>
      rw [passing] at stopped
      cases stopped
  | ok passed =>
      rw [passing] at stopped
      have sizes := passContent_sizes passing
      obtain ⟨extent, left⟩ := passContent_extent passing
      by_cases complete : passed.missing = 0
      · have nothing := Passed.rest_of_incomplete stopped complete
        rw [nothing, List.length_nil] at sizes
        omega
      · have few := left complete
        omega

/-! ### Elements -/

theorem Bytes.ofText_length_le (text : String) :
    (ofText text).length ≤ 4 * text.length := by
  rw [ofText_eq_flatMap, ← String.length_toList]
  induction text.toList with
  | nil => exact Nat.le_refl 0
  | cons char chars ih =>
      have narrow := Char.utf8Size_le_four char
      rw [List.flatMap_cons, List.length_append, String.length_utf8EncodeChar,
        List.length_cons]
      omega

theorem WireElement.length_lt {element : WireElement} {longest : Nat}
    (bounded : element.text.length ≤ longest) :
    element.bytes.length < elementRoom longest := by
  have short := element.short
  have extent := Bytes.ofText_length_le element.text
  rw [WireElement.bytes, List.length_append, List.length_cons, elementRoom]
  omega

section

variable {limits : Limits} {most longest : Nat} {progress next : Progress}
  {buffer rest : Bytes}

theorem nextElement_incomplete_length (count : limits.elements = some most)
    (width : limits.elementLength = some longest)
    (stopped : nextElement limits progress rest = .incomplete next) :
    progress.elements.length < most ∧ rest.length < elementRoom longest := by
  unfold nextElement at stopped
  split at stopped
  · cases stopped
  · rename_i few
    refine ⟨by simpa [count] using few, ?_⟩
    rw [elementRoom]
    cases reading : readLength 0 0 rest with
    | malformed cause =>
        rw [reading] at stopped
        cases stopped
    | incomplete =>
        have digits := readLength_incomplete (Nat.zero_le _) reading
        omega
    | found length size =>
        rw [reading] at stopped
        simp only at stopped
        split at stopped
        · cases stopped
        · rename_i fits
          have bounded : length ≤ longest := by simpa [width] using fits
          have content := closeElement_incomplete_length stopped
          obtain ⟨digits, after, split, -, -, short, -, taken⟩ :=
            readLength_found_numeral (Nat.zero_le _) reading
          simp only [List.length_drop] at content
          omega

/-! ### Frames -/

theorem scanFrom_incomplete_length (count : limits.elements = some most)
    (width : limits.elementLength = some longest)
    (closed : progress.content = none)
    (stopped : scanFrom limits buffer progress rest = .incomplete next) :
    progress.elements.length < most ∧
      rest.length <
        (most - progress.elements.length) * elementRoom longest := by
  fun_induction scanFrom limits buffer progress rest with
  | case1 progress rest reached step =>
      rw [advanceElement_closed closed] at step
      obtain ⟨few, short⟩ := nextElement_incomplete_length count width step
      have some : 0 < most - progress.elements.length := by omega
      exact ⟨few, Nat.lt_of_lt_of_le short (Nat.le_mul_of_pos_left _ some)⟩
  | case2 progress rest cause step => cases stopped
  | case3 progress rest reached step => cases stopped
  | case4 progress rest further after step ih =>
      rw [advanceElement_closed closed] at step
      obtain ⟨element, split, behind, admitted⟩ := nextElement_comma_shape step
      subst behind
      have short := WireElement.length_lt
        (admitted.2 longest width element.text List.mem_cons_self)
      obtain ⟨few, left⟩ := ih rfl stopped
      rw [WireElement.behind, List.length_append, List.length_singleton]
        at few left
      -- this element takes one room, the others have the rooms that are left
      have rooms : most - progress.elements.length =
          most - (progress.elements.length + 1) + 1 := by omega
      rw [split, List.length_append, List.length_cons, rooms, Nat.succ_mul]
      exact ⟨by omega, by omega⟩

theorem Decoder.length_of_incomplete {after : Decoder}
    (count : limits.elements = some most)
    (width : limits.elementLength = some longest)
    (waits : Decoder.decode { limits } buffer = (.incomplete, after)) :
    buffer.length < most * elementRoom longest := by
  rw [decode_of_fits (Progress.fits_initial _)] at waits
  simp only [List.drop_zero] at waits
  cases scan : scanFrom limits buffer {} buffer with
  | incomplete progress =>
      exact (scanFrom_incomplete_length count width rfl scan).2
  | malformed cause =>
      rw [scan] at waits
      cases waits
  | complete progress =>
      rw [scan] at waits
      simp only [frameOf] at waits
      split at waits
      · cases waits
      · split at waits <;> cases waits

end

/-! ### Writers -/

namespace FilteredWriter

variable {φ σ : Type} {writer : FilteredWriter φ}

/-- The writer goes on with what is pending, in which a fresh decoder finds no
frame and nothing malformed. -/
structure Waits (writer : FilteredWriter φ) : Prop where
  goesOn : writer.GoesOn
  pending : (Decoder.client.decode writer.pending).1 = .incomplete

theorem waits_fresh (filter : Filter φ) (memory : φ) :
    Waits { filter, memory } where
  goesOn := goesOn_fresh filter memory
  pending := congrArg Prod.fst
    (Intake.decode_empty (by decide) : Decoder.client.decode [] = _)

theorem Waits.accept (waits : writer.Waits) {data : Bytes}
    (accepted : ∀ error, (writer.accept data).1 ≠ .error error) :
    (writer.accept data).2.Waits := by
  refine ⟨(waits.goesOn.accept data).1, ?_⟩
  have whole := waits.goesOn data
  cases fault : (Intake.takeFrames writer.decoder
      (writer.pending ++ data) []).fault with
  | some cause =>
      have failed : (writer.accept data).1 = .error (.badRequest cause.message) := by
        rw [FilteredWriter.accept, Decoder.drain_of_fault fault]
      exact absurd failed (accepted _)
  | none =>
      have left : (writer.accept data).2.pending =
          (Intake.takeFrames .client (writer.pending ++ data) []).left := by
        rw [FilteredWriter.accept, Decoder.drain_of_sound fault, whole]
      rw [whole] at fault
      rw [left]
      exact congrArg Prod.fst (Intake.takeFrames_decoder rfl fault)

variable [ByteSink σ]

theorem accept_of_write {data : Bytes} {output : σ}
    (done : ∀ error, (writer.write data output).1.1 ≠ .failed error)
    (error : RelayError) : (writer.accept data).1 ≠ .error error := by
  intro failed
  rcases accepting : writer.accept data with ⟨outcome, next⟩
  rw [accepting] at failed
  cases failed
  apply done error
  rw [FilteredWriter.write, accepting]

/-- A use of a writer that is not a write that fails. -/
def Use.Succeeds (writer : FilteredWriter φ) : Use φ σ → Prop
  | .write data output =>
      ∀ error, (writer.write data output).1.1 ≠ .failed error
  | .writeInstruction _ _ | .remember _ => True

theorem Waits.use (waits : writer.Waits) {done : Use φ σ}
    (succeeds : done.Succeeds writer) : (writer.use done).Waits := by
  cases done with
  | write data output =>
      change ((writer.write data output).2.1).Waits
      rw [write_writer]
      exact waits.accept (accept_of_write succeeds)
  | writeInstruction instruction output =>
      change ((writer.writeInstruction instruction output).2.1).Waits
      rw [writeInstruction_writer]
      exact ⟨waits.goesOn, waits.pending⟩
  | remember change => exact ⟨waits.goesOn, waits.pending⟩

def Succeed (writer : FilteredWriter φ) : List (Use φ σ) → Prop
  | [] => True
  | first :: others => first.Succeeds writer ∧ (writer.use first).Succeed others

theorem Waits.uses (waits : writer.Waits) {done : List (Use φ σ)}
    (succeed : writer.Succeed done) :
    (done.foldl FilteredWriter.use writer).Waits := by
  induction done generalizing writer with
  | nil => exact waits
  | cons first done ih => exact ih (waits.use succeed.1) succeed.2

end FilteredWriter

/-- As long as no write fails, a filtered writer holds back less than the largest
frame that a client may send, however data is cut and whatever it is. The reason
is that a fresh decoder never waits for more behind as many bytes. -/
theorem pending_bounded :
    (∀ {φ σ : Type} [ByteSink σ] (filter : Filter φ) (memory : φ)
      (uses : List (FilteredWriter.Use φ σ)),
      FilteredWriter.Succeed { filter, memory } uses →
      (uses.foldl FilteredWriter.use { filter, memory }).pending.length <
        128 * (10 + 1 + 4 * 8192 + 1)) ∧
    ∀ buffer : Bytes, 128 * (10 + 1 + 4 * 8192 + 1) ≤ buffer.length →
      (Decoder.client.decode buffer).1 ≠ .incomplete := by
  have short : ∀ buffer : Bytes,
      (Decoder.client.decode buffer).1 = .incomplete →
        buffer.length < 128 * (10 + 1 + 4 * 8192 + 1) := by
    intro buffer waits
    have stopped : Decoder.decode { limits := .client } buffer =
        (.incomplete, (Decoder.client.decode buffer).2) := Prod.ext waits rfl
    exact Decoder.length_of_incomplete rfl rfl stopped
  constructor
  · intro φ σ sink filter memory uses succeed
    apply short
    exact ((FilteredWriter.waits_fresh filter memory).uses succeed).pending
  · intro buffer long waits
    exact Nat.not_lt.mpr long (short buffer waits)

/-- A frame in two pieces, of which the second ends inside the content of another
one; and digits without an end. -/
theorem pending_bounded_cut :
    let writer : FilteredWriter (List Instruction) :=
      { filter := internalFilter, memory := [] }
    let uses : List (FilteredWriter.Use (List Instruction) Sink) :=
      [.write (Bytes.ofText "3.no") {}, .write (Bytes.ofText "p;4.sy") {}]
    let digits : Bytes := List.replicate 4195840 0x39
    (writer.Succeed uses ∧
      (uses.foldl FilteredWriter.use writer).pending = Bytes.ofText "4.sy" ∧
      (uses.foldl FilteredWriter.use writer).pending.length < 4195840) ∧
    4195840 ≤ digits.length ∧ (Decoder.client.decode digits).1 ≠ .incomplete := by
  intro writer uses digits
  have done (writer : FilteredWriter (List Instruction)) (data : Bytes)
      (done : ((writer.write data ({} : Sink)).1.1 matches .done) = true) :
      FilteredWriter.Use.Succeeds writer (.write data ({} : Sink)) := by
    intro error failed
    rw [failed] at done
    cases done
  have succeed : writer.Succeed uses :=
    ⟨done _ _ (by decide +kernel), done _ _ (by decide +kernel), trivial⟩
  have long : 4195840 ≤ digits.length := by
    rw [List.length_replicate]
  exact ⟨⟨succeed, by decide +kernel, pending_bounded.1 internalFilter [] uses succeed⟩,
    long, pending_bounded.2 digits long⟩

end TunnelRelay
