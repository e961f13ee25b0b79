import Mathlib.Data.List.TakeWhile
import Heartbeat.Text.Utf8

/-!
# Bytes read back

A text without surrogates becomes bytes, and the strict reader gives the text
back (`decode?_bytes`).  A text with a surrogate never becomes bytes
(`encode_eq_ok_iff`), and what is reported then begins at its first surrogate.

The leading byte of a code point tells how many bytes belong to it, so the bytes
of one code point are read without looking at what follows
(`decode?_utf8_append`).  Every byte of a code point from `U+0020` on is at least
`0x20`: lines may be ended by a control.
-/

namespace Heartbeat

set_option autoImplicit false

/-! ## Surrogates -/

namespace Text

/-- What is left behind the longest front of points that satisfy a condition. -/
theorem drop_length_takeWhile (condition : CodePoint → Bool) (text : Text) :
    text.drop (text.takeWhile condition).length = text.dropWhile condition := by
  induction text with
  | nil => rfl
  | cons point text hypothesis =>
      by_cases holds : condition point
      · simpa [holds] using hypothesis
      · simp [holds]

/-- The first run begins with what is left when everything before the first surrogate is
dropped. -/
theorem surrogateRun?_eq (text : Text) :
    text.surrogateRun?
      = match text.dropWhile fun point => !point.isSurrogate with
        | [] => none
        | first :: rest =>
          let start := (text.takeWhile fun point => !point.isSurrogate).length
          some ⟨first, start, start + (rest.takeWhile CodePoint.isSurrogate).length⟩ := by
  rw [← drop_length_takeWhile]
  rfl

/-- No run of surrogates is found exactly when there is no surrogate. -/
theorem surrogateRun?_eq_none_iff (text : Text) :
    text.surrogateRun? = none ↔ ∀ point ∈ text, point.isSurrogate = false := by
  rw [surrogateRun?_eq]
  constructor
  · intro none_found point member
    split at none_found
    · next nothing_left =>
        have clean := List.dropWhile_eq_nil_iff.mp nothing_left point member
        simpa using clean
    · cases none_found
  · intro clean
    have nothing_left : (text.dropWhile fun point => !point.isSurrogate) = [] :=
      List.dropWhile_eq_nil_iff.mpr fun point member => by simp [clean point member]
    rw [nothing_left]

end Text

/-- A run marks the first maximal run of surrogates in a text: nothing before it is a
surrogate, everything from its first position to its last is one, and what follows it
is none. -/
def SurrogateRun.Marks (run : SurrogateRun) (text : Text) : Prop :=
  ∃ before others after, text = before ++ run.first :: others ++ after
    ∧ run.start = before.length ∧ run.stop = before.length + others.length
    ∧ (∀ point ∈ before, point.isSurrogate = false)
    ∧ (∀ point ∈ run.first :: others, point.isSurrogate = true)
    ∧ ∀ next, after.head? = some next → next.isSurrogate = false

namespace Text

/-- The run that is found is the first maximal one. -/
theorem surrogateRun?_eq_some_iff (text : Text) (run : SurrogateRun) :
    text.surrogateRun? = some run ↔ run.Marks text := by
  rw [surrogateRun?_eq]
  constructor
  · intro found
    have clean : ∀ point ∈ text.takeWhile fun point => !point.isSurrogate,
        point.isSurrogate = false := fun point member => by
      simpa using List.mem_takeWhile_imp member
    have parts := List.takeWhile_append_dropWhile (p := fun point => !point.isSurrogate) (l := text)
    have begins := List.head?_dropWhile_not (fun point => !point.isSurrogate) text
    split at found
    · cases found
    · next first rest left =>
        obtain rfl := Option.some.inj found
        have rest_parts := List.takeWhile_append_dropWhile (p := CodePoint.isSurrogate) (l := rest)
        have ends := List.head?_dropWhile_not CodePoint.isSurrogate rest
        rw [left] at parts begins
        refine ⟨_, rest.takeWhile CodePoint.isSurrogate, rest.dropWhile CodePoint.isSurrogate,
          ?_, rfl, rfl, clean, ?_, ?_⟩
        · rw [List.append_assoc, List.cons_append, rest_parts, parts]
        · rintro point member
          rcases List.mem_cons.mp member with rfl | later
          · simpa using begins
          · exact List.mem_takeWhile_imp later
        · intro next is_next
          rw [is_next] at ends
          simpa using ends
  · obtain ⟨first, start, stop⟩ := run
    rintro ⟨before, others, after, rfl, rfl, rfl, clean, inside, ends⟩
    have begins : (!first.isSurrogate) = false := by rw [inside first (List.mem_cons_self ..)]; rfl
    have plain : ∀ point ∈ before, (!point.isSurrogate) = true := fun point member => by
      rw [clean point member]
      rfl
    have run_ends : after.takeWhile CodePoint.isSurrogate = [] := by
      cases after with
      | nil => rfl
      | cons next after =>
          rw [List.takeWhile_cons, ends next rfl]
          rfl
    rw [List.append_assoc, List.cons_append, List.dropWhile_append_of_pos plain,
      List.takeWhile_append_of_pos plain, List.dropWhile_cons, begins, List.takeWhile_cons, begins]
    simp only [Bool.false_eq_true, if_false]
    rw [List.takeWhile_append_of_pos fun point member => inside point (List.mem_cons_of_mem _ member),
      run_ends, List.append_nil, List.append_nil]

end Text

/-- Only one run is the first maximal one. -/
theorem SurrogateRun.Marks.unique {text : Text} {run other : SurrogateRun} (marks : run.Marks text)
    (also : other.Marks text) : run = other := by
  have found := (text.surrogateRun?_eq_some_iff run).mpr marks
  have again := (text.surrogateRun?_eq_some_iff other).mpr also
  exact Option.some.inj (found.symm.trans again)

namespace Text

/-- A text becomes bytes exactly when it holds no surrogate. -/
theorem encode_eq_ok_iff (text : Text) (bytes : Bytes) :
    text.encode = .ok bytes
      ↔ (∀ point ∈ text, point.isSurrogate = false) ∧ text.bytes = bytes := by
  rw [← surrogateRun?_eq_none_iff, encode]
  split
  · next absent => simp [absent]
  · next run found => simp [found]

/-- A text with a surrogate is refused with its first run of surrogates. -/
theorem encode_eq_error_iff (text : Text) (run : SurrogateRun) :
    text.encode = .error run ↔ text.surrogateRun? = some run := by
  rw [encode]
  split
  · next absent => simp [absent]
  · next found_run found => simp [found]

end Text

/-! ## Bytes of one code point -/

/-- The value of a continuation byte is what was put into it. -/
theorem Bytes.continuation?_ofNat (number : Nat) (small : number < 0x40) :
    Bytes.continuation? (UInt8.ofNat (0x80 + number)) = some number := by
  have value : (UInt8.ofNat (0x80 + number)).toNat = 0x80 + number := by
    rw [UInt8.toNat_ofNat']
    omega
  rw [Bytes.continuation?, value, if_pos (by omega)]
  simp

/-- A code point that is no surrogate is found from its number. -/
theorem Bytes.point?_val (least : Nat) {point : CodePoint} (large : least ≤ point.val)
    (plain : point.isSurrogate = false) : Bytes.point? least point.val = some point := by
  rw [Bytes.point?, dif_pos point.isLt, if_pos ⟨large, plain⟩]

/-- The bytes of a code point are read as that code point, whatever follows. -/
theorem Bytes.decode?_utf8_append (point : CodePoint) (rest : Bytes)
    (plain : point.isSurrogate = false) :
    Bytes.decode? (point.utf8 ++ rest) = (Bytes.decode? rest).map (point :: ·) := by
  have bound : point.val < 0x110000 := point.isLt
  have value : ∀ number : Nat, number < 0x100 → (UInt8.ofNat number).toNat = number := by
    intro number small
    rw [UInt8.toNat_ofNat']
    omega
  -- One case for each length: the leading byte selects the branch of the reader,
  -- and the numbers in the bytes together are the number of the code point.
  rw [CodePoint.utf8]
  by_cases one : point.val < 0x80
  · simp only [if_pos one, List.cons_append, List.nil_append]
    rw [Bytes.decode?.eq_def]
    simp only [value _ (show point.val < 0x100 by omega), if_pos one]
    rw [Bytes.point?_val 0 (Nat.zero_le _) plain]
    cases Bytes.decode? rest <;> rfl
  by_cases two : point.val < 0x800
  · have first := value (0xC0 + point.val / 0x40) (by omega)
    have number : (0xC0 + point.val / 0x40 - 0xC0) * 0x40 + point.val % 0x40 = point.val := by
      omega
    simp only [if_neg one, if_pos two, List.cons_append, List.nil_append]
    rw [Bytes.decode?, first, if_neg (by omega), if_pos (by omega)]
    simp only [Bytes.continuation?_ofNat (point.val % 0x40) (by omega),
      Option.bind_eq_bind, Option.bind_some, number,
      Bytes.point?_val 0x80 (by omega) plain]
    cases Bytes.decode? rest <;> rfl
  by_cases three : point.val < 0x10000
  · have first := value (0xE0 + point.val / 0x1000) (by omega)
    have number : (0xE0 + point.val / 0x1000 - 0xE0) * 0x1000 + point.val / 0x40 % 0x40 * 0x40
        + point.val % 0x40 = point.val := by omega
    simp only [if_neg one, if_neg two, if_pos three, List.cons_append, List.nil_append]
    rw [Bytes.decode?, first, if_neg (by omega), if_neg (by omega), if_pos (by omega)]
    simp only [Bytes.continuation?_ofNat (point.val % 0x40) (by omega),
      Bytes.continuation?_ofNat (point.val / 0x40 % 0x40) (by omega),
      Option.bind_eq_bind, Option.bind_some, number,
      Bytes.point?_val 0x800 (by omega) plain]
    cases Bytes.decode? rest <;> rfl
  · have first := value (0xF0 + point.val / 0x40000) (by omega)
    have number : (0xF0 + point.val / 0x40000 - 0xF0) * 0x40000
        + point.val / 0x1000 % 0x40 * 0x1000 + point.val / 0x40 % 0x40 * 0x40
        + point.val % 0x40 = point.val := by omega
    simp only [if_neg one, if_neg two, if_neg three, List.cons_append, List.nil_append]
    rw [Bytes.decode?, first, if_neg (by omega), if_neg (by omega), if_neg (by omega),
      if_pos (by omega)]
    -- By definition alone the products would be counted out in ones.
    simp -implicitDefEqProofs only [Bytes.continuation?_ofNat (point.val % 0x40) (by omega),
      Bytes.continuation?_ofNat (point.val / 0x40 % 0x40) (by omega),
      Bytes.continuation?_ofNat (point.val / 0x1000 % 0x40) (by omega),
      Option.bind_eq_bind, Option.bind_some, number,
      Bytes.point?_val 0x10000 (by omega) plain]
    cases Bytes.decode? rest <;> rfl

/-- The bytes of a code point that is no control are no controls either. -/
theorem CodePoint.le_toNat_of_mem_utf8 {point : CodePoint} (large : 0x20 ≤ point.val) {byte : UInt8}
    (member : byte ∈ point.utf8) : 0x20 ≤ byte.toNat := by
  have bound : point.val < 0x110000 := point.isLt
  simp only [CodePoint.utf8] at member
  split at member
  · rw [List.mem_singleton.mp member, UInt8.toNat_ofNat']
    omega
  split at member
  · simp only [List.mem_cons, List.not_mem_nil, or_false] at member
    rcases member with rfl | rfl <;> rw [UInt8.toNat_ofNat'] <;> omega
  split at member
  · simp only [List.mem_cons, List.not_mem_nil, or_false] at member
    rcases member with rfl | rfl | rfl <;> rw [UInt8.toNat_ofNat'] <;> omega
  · simp only [List.mem_cons, List.not_mem_nil, or_false] at member
    rcases member with rfl | rfl | rfl | rfl <;> rw [UInt8.toNat_ofNat'] <;> omega

/-! ## Bytes of a text -/

/-- **The bytes of a text without surrogates read back as the text.** -/
theorem Bytes.decode?_bytes (text : Text) (plain : ∀ point ∈ text, point.isSurrogate = false) :
    Bytes.decode? (Text.bytes text) = some text := by
  induction text with
  | nil => rfl
  | cons point text hypothesis =>
      have head := plain point (List.mem_cons_self ..)
      have tail := hypothesis fun other member => plain other (List.mem_cons_of_mem _ member)
      have split : Text.bytes (point :: text) = point.utf8 ++ Text.bytes text := rfl
      rw [split, Bytes.decode?_utf8_append point _ head, tail]
      rfl

/-- The bytes of a text without controls are no controls. -/
theorem Text.le_toNat_of_mem_bytes {text : Text} (printed : ∀ point ∈ text, 0x20 ≤ point.val)
    {byte : UInt8} (member : byte ∈ text.bytes) : 0x20 ≤ byte.toNat := by
  obtain ⟨point, inside, part⟩ := List.mem_flatMap.mp member
  exact CodePoint.le_toNat_of_mem_utf8 (printed point inside) part

end Heartbeat
