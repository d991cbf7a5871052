/-
Numbers as sums over their bytes, and words that are turned round.

What a format reads is the sum of its bytes, each with the weight of its place; the byte order
only says which places weigh more.  Turning the words of a buffer round exchanges the places,
so that a little-endian read after it is a big-endian read before it.

* `ofLittleEndian_eq_sum`, `ofBigEndian_eq_sum` — what bytes spell, as a sum;
* `NumberFormat.Reads` — width, weights and sign of what a format reads;
* `NumberFormat.reads` — every format reads what it says;
* `getElem?_swapWords`, `drop_swapWords` — where the bytes of whole words go, and what stays;
* `readAt?_swapWords` — numbers inside a word after it was turned round;
* `TurnedRound` — what becomes of a buffer whose words are turned round;
* `fields_and_words` — all formats of result blocks, and buffers that are turned round.
-/
import Mathlib.Algebra.BigOperators.Intervals
import Mathlib.Algebra.BigOperators.Ring.Finset
import SensorLink.Bytes.Number

namespace SensorLink

namespace Bytes

theorem capacity_eq_pow (width : Nat) : capacity width = 2 ^ (8 * width) := by
  induction width with
  | zero => rfl
  | succ width ih => rw [capacity, ih, Nat.mul_succ, Nat.pow_add, Nat.mul_comm]

/-- Read from the low end, the byte with number `i` counts `256 ^ i` times. -/
theorem ofLittleEndian_eq_sum (bytes : Bytes) :
    ofLittleEndian bytes
      = ∑ i ∈ Finset.range bytes.length, (bytes.getD i 0).toNat * 256 ^ i := by
  induction bytes with
  | nil => rfl
  | cons b rest ih =>
    rw [ofLittleEndian, ih, List.length_cons, Finset.sum_range_succ', Finset.mul_sum,
      Nat.add_comm]
    refine congrArg₂ (· + ·) (Finset.sum_congr rfl ?_) ?_
    · intro i _
      rw [List.getD_cons_succ, Nat.pow_succ']
      exact Nat.mul_left_comm ..
    · rw [List.getD_cons_zero, Nat.pow_zero, Nat.mul_one]

/-- Read from the high end, the last byte counts once. -/
theorem ofBigEndian_eq_sum (bytes : Bytes) :
    ofBigEndian bytes
      = ∑ i ∈ Finset.range bytes.length,
          (bytes.getD i 0).toNat * 256 ^ (bytes.length - 1 - i) := by
  rw [ofBigEndian, ofLittleEndian_eq_sum, List.length_reverse, ← Finset.sum_range_reflect]
  refine Finset.sum_congr rfl ?_
  intro i hi
  have hi := Finset.mem_range.mp hi
  have hplace : bytes.length - 1 - (bytes.length - 1 - i) = i := by omega
  rw [List.getD_eq_getElem?_getD, List.getElem?_reverse (by omega), hplace,
    ← List.getD_eq_getElem?_getD]

/-- A byte of a range of a buffer. -/
theorem getD_take_drop (buffer : Bytes) (offset : Nat) {width i : Nat} (h : i < width) :
    ((buffer.drop offset).take width).getD i 0 = buffer.getD (offset + i) 0 := by
  rw [List.getD_eq_getElem?_getD, List.getElem?_take_of_lt h, List.getElem?_drop,
    ← List.getD_eq_getElem?_getD]

end Bytes

/-! ### Formats -/

namespace NumberFormat

/-- How much the byte with number `i` of a number counts. -/
def weight (format : NumberFormat) (i : Nat) : Nat :=
  match format.order with
  | .little => 256 ^ i
  | .big => 256 ^ (format.width - 1 - i)

/-- What the sum of the bytes stands for: the number itself, or the one of which it is the
two's complement. -/
def ofSum (format : NumberFormat) (sum : Nat) : Int :=
  if format.signed then (BitVec.ofNat (8 * format.width) sum).toInt else sum

/-- A format reads the `width` bytes at an offset whenever the buffer has them, and gives what
their sum stands for, the byte with number `i` counted `weight i` times. -/
structure Reads (format : NumberFormat) (width : Nat) (weight : Nat → Nat)
    (ofSum : Nat → Int) : Prop where
  isSome_iff : ∀ buffer offset,
    (format.readAt? buffer offset).isSome ↔ offset + width ≤ buffer.length
  eq_sum : ∀ buffer offset number, format.readAt? buffer offset = some number →
    number = ofSum (∑ i ∈ Finset.range width, (buffer.getD (offset + i) 0).toNat * weight i)

/-- What as many bytes as a format is wide stand for. -/
theorem value_eq_ofSum (format : NumberFormat) {bytes : Bytes}
    (h : bytes.length = format.width) :
    format.value bytes
      = format.ofSum (∑ i ∈ Finset.range format.width,
          (bytes.getD i 0).toNat * format.weight i) := by
  obtain ⟨width, order, signed⟩ := format
  subst h
  cases order with
  | little =>
    simp only [value, ofSum, BitVec.toInt_ofNat', Bytes.capacity_eq_pow]
    rw [Bytes.ofLittleEndian_eq_sum]
    rfl
  | big =>
    simp only [value, ofSum, BitVec.toInt_ofNat', Bytes.capacity_eq_pow]
    rw [Bytes.ofBigEndian_eq_sum]
    rfl

theorem reads (format : NumberFormat) :
    format.Reads format.width format.weight format.ofSum where
  isSome_iff := format.readAt?_isSome_iff
  eq_sum := by
    intro buffer offset number hread
    have hfits : offset + format.width ≤ buffer.length := by
      rw [← format.readAt?_isSome_iff, hread]
      rfl
    have hlength : ((buffer.drop offset).take format.width).length = format.width := by
      rw [List.length_take, List.length_drop]
      omega
    rw [format.readAt?_of_le hfits, format.value_eq_ofSum hlength] at hread
    rw [← Option.some.inj hread]
    refine congrArg format.ofSum (Finset.sum_congr rfl ?_)
    intro i hi
    rw [Bytes.getD_take_drop buffer offset (Finset.mem_range.mp hi)]

end NumberFormat

/-! ### Words -/

@[simp] theorem swapWords_swapWords (buffer : Bytes) :
    swapWords (swapWords buffer) = buffer := by
  induction buffer using swapWords.induct with
  | case1 a b c d rest ih => rw [swapWords, swapWords, ih]
  | case2 rest hshort =>
    rw [swapWords.eq_2 rest hshort, swapWords.eq_2 rest hshort]

/-- The bytes of a whole word change places: the first with the last, the second with the
third. -/
theorem getElem?_swapWords (buffer : Bytes) {k i : Nat} (hword : 4 * k + 4 ≤ buffer.length)
    (hi : i < 4) : (swapWords buffer)[4 * k + (3 - i)]? = buffer[4 * k + i]? := by
  induction buffer using swapWords.induct generalizing k with
  | case1 a b c d rest ih =>
    rw [swapWords]
    cases k with
    | zero =>
      obtain rfl | rfl | rfl | rfl : i = 0 ∨ i = 1 ∨ i = 2 ∨ i = 3 := by omega
      · rfl
      · rfl
      · rfl
      · rfl
    | succ k =>
      have hword : 4 * k + 4 ≤ rest.length := by
        simp only [List.length_cons] at hword
        omega
      have hfrom : 4 * (k + 1) + (3 - i) = 4 * k + (3 - i) + 4 := by omega
      have hto : 4 * (k + 1) + i = 4 * k + i + 4 := by omega
      rw [hfrom, hto]
      exact ih hword
  | case2 rest hshort =>
    -- A buffer with a whole word is no rest.
    rcases rest with _ | ⟨a, _ | ⟨b, _ | ⟨c, _ | ⟨d, rest⟩⟩⟩⟩
    case cons.cons.cons.cons => exact absurd rfl (hshort a b c d rest)
    all_goals
      simp only [List.length_cons, List.length_nil] at hword
      omega

/-- What does not fill a word stays as it is. -/
theorem drop_swapWords (buffer : Bytes) :
    (swapWords buffer).drop (buffer.length - buffer.length % 4)
      = buffer.drop (buffer.length - buffer.length % 4) := by
  induction buffer using swapWords.induct with
  | case1 a b c d rest ih =>
    have hlength : (a :: b :: c :: d :: rest).length - (a :: b :: c :: d :: rest).length % 4
        = rest.length - rest.length % 4 + 4 := by
      simp only [List.length_cons]
      omega
    rw [hlength, swapWords]
    exact ih
  | case2 rest hshort => rw [swapWords.eq_2 rest hshort]

/-- A part of a word comes out turned round, at the same distance from the other end of the
word. -/
theorem take_drop_swapWords (buffer : Bytes) {k first width : Nat}
    (hword : 4 * k + 4 ≤ buffer.length) (hinside : first + width ≤ 4) :
    ((swapWords buffer).drop (4 * k + first)).take width
      = ((buffer.drop (4 * k + (4 - first - width))).take width).reverse := by
  have hlength : ((buffer.drop (4 * k + (4 - first - width))).take width).length = width := by
    rw [List.length_take, List.length_drop]
    omega
  refine List.ext_getElem? ?_
  intro i
  by_cases hi : i < width
  · have hfrom : 4 * k + first + i = 4 * k + (3 - (3 - (first + i))) := by omega
    have hto : 4 * k + (4 - first - width) + (width - 1 - i) = 4 * k + (3 - (first + i)) := by
      omega
    rw [List.getElem?_take_of_lt hi, List.getElem?_drop, hfrom,
      getElem?_swapWords buffer hword (by omega), List.getElem?_reverse (by omega), hlength,
      List.getElem?_take_of_lt (by omega), List.getElem?_drop, hto]
  · rw [List.getElem?_eq_none (by rw [List.length_take]; omega),
      List.getElem?_eq_none (by rw [List.length_reverse]; omega)]

/-- A number inside a word that was turned round is read from its other end. -/
theorem readAt?_swapWords (buffer : Bytes) {k first width : Nat} (signed : Bool)
    (hword : 4 * k + 4 ≤ buffer.length) (hinside : first + width ≤ 4) :
    NumberFormat.readAt? ⟨width, .little, signed⟩ (swapWords buffer) (4 * k + first)
      = NumberFormat.readAt? ⟨width, .big, signed⟩ buffer
          (4 * k + (4 - first - width)) := by
  have hafter : 4 * k + first + width ≤ (swapWords buffer).length := by
    rw [length_swapWords]
    omega
  have hbefore : 4 * k + (4 - first - width) + width ≤ buffer.length := by omega
  rw [NumberFormat.readAt?_of_le _ hafter, NumberFormat.readAt?_of_le _ hbefore,
    take_drop_swapWords buffer hword hinside]
  rfl

open NumberFormat in
/-- What becomes of a buffer whose words are turned round. -/
structure TurnedRound (buffer turned : Bytes) : Prop where
  length_eq : turned.length = buffer.length
  /-- Turned round again, the words are as before. -/
  again : swapWords turned = buffer
  /-- Up to three bytes at the end belong to no whole word and stay. -/
  rest : turned.drop (buffer.length - buffer.length % 4)
    = buffer.drop (buffer.length - buffer.length % 4)
  /-- In a whole word each byte goes to the same distance from the other end. -/
  moved : ∀ k i, 4 * k + 4 ≤ buffer.length → i < 4 →
    turned[4 * k + 3 - i]? = buffer[4 * k + i]?
  /-- A whole word is read from its other end. -/
  word : ∀ k, 4 * k + 4 ≤ buffer.length →
    littleWord.readAt? turned (4 * k) = bigWord.readAt? buffer (4 * k)
  /-- So are the two halves of a word, which also change places. -/
  firstHalf : ∀ k, 4 * k + 4 ≤ buffer.length →
    littleHalf.readAt? turned (4 * k) = bigHalf.readAt? buffer (4 * k + 2)
  secondHalf : ∀ k, 4 * k + 4 ≤ buffer.length →
    littleHalf.readAt? turned (4 * k + 2) = bigHalf.readAt? buffer (4 * k)

theorem turnedRound_swapWords (buffer : Bytes) : TurnedRound buffer (swapWords buffer) where
  length_eq := length_swapWords buffer
  again := swapWords_swapWords buffer
  rest := drop_swapWords buffer
  moved := by
    intro k i hword hi
    rw [← getElem?_swapWords buffer hword hi, Nat.add_sub_assoc (Nat.le_of_lt_succ hi)]
  word := by
    intro k hword
    exact @readAt?_swapWords buffer k 0 4 false hword (Nat.le_refl 4)
  firstHalf := by
    intro k hword
    exact @readAt?_swapWords buffer k 0 2 false hword (by decide)
  secondHalf := by
    intro k hword
    exact @readAt?_swapWords buffer k 2 2 false hword (Nat.le_refl 4)

open NumberFormat in
/-- Every format of a result block reads a number just if its bytes are all in the buffer, and
gives their sum with the weights of its byte order, a signed one in two's complement; and
turning the words of a buffer round exchanges the byte orders inside of every whole word. -/
theorem fields_and_words :
    byte.Reads 1 (fun _ => 1) (↑) ∧
      bigHalf.Reads 2 (fun i => 256 ^ (1 - i)) (↑) ∧
      littleHalf.Reads 2 (fun i => 256 ^ i) (↑) ∧
      signedHalf.Reads 2 (fun i => 256 ^ i) (fun sum => (BitVec.ofNat 16 sum).toInt) ∧
      bigWord.Reads 4 (fun i => 256 ^ (3 - i)) (↑) ∧
      littleWord.Reads 4 (fun i => 256 ^ i) (↑) ∧
      signedWord.Reads 4 (fun i => 256 ^ i) (fun sum => (BitVec.ofNat 32 sum).toInt) ∧
      ∀ buffer, TurnedRound buffer (swapWords buffer) := by
  have hbyte : byte.Reads 1 (fun _ => 1) (↑) := by
    refine ⟨byte.reads.isSome_iff, ?_⟩
    intro buffer offset number hread
    -- The only byte has the weight `256 ^ 0`.
    rw [byte.reads.eq_sum buffer offset number hread]
    rfl
  exact ⟨hbyte, bigHalf.reads, littleHalf.reads, signedHalf.reads, bigWord.reads,
    littleWord.reads, signedWord.reads, turnedRound_swapWords⟩

end SensorLink
