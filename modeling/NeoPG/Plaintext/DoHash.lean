import NeoPG.Plaintext.HandlePlaintext

/-!
# Hashing a detached data file: `do_hash`

`do_hash` feeds the bytes of a data file to one or two digests.  `md` gets them as they are.
`md2`, when present, gets them with line ends rewritten as CR LF, "to work around a strange
behaviour in pgp2"; the comment adds that "at least PGP5 converts a single CR to a CR,LF too".
The rewriting looks one byte back (`lc`): an LF gets a CR before it unless a CR precedes it, and
the byte after a CR gets an LF before it unless it is that LF.

When `fp` is in text mode a text filter is pushed first; the loop reads whatever the filter
yields, so the model takes the bytes read as its input, for every byte sequence.

`crlfLineEnds` writes every line end, a CR LF pair, a lone LF or a lone CR, as CR LF, looking
ahead.  **`doHash_md2`** says what the look-behind loop computes instead: `crlfLineEnds s`,
except that a CR at the very end of `s` is hashed without the LF, since no byte follows it to
trigger one.  The induction carries the byte before the rest of the input and the LF still owed
for a CR read last (`doHashMd2_after`).
-/

namespace NeoPG

/-! ## The loop -/

/-- What the `md2` branch hashes for a byte `c` read after the byte `lc` (`-1` at the start,
`none` here). -/
def doHashMd2Byte (lc : Option UInt8) (c : UInt8) : List UInt8 :=
  if c = 10 ∧ lc = some 13 then [c]
  else if c = 10 then [13, c]
  else if c ≠ 10 ∧ lc = some 13 then [10, c]
  else [c]

/-- The `md2` loop on the bytes after `lc`. -/
def doHashMd2 : Option UInt8 → List UInt8 → List UInt8
  | _, [] => []
  | lc, c :: s => doHashMd2Byte lc c ++ doHashMd2 (some c) s

/-- `do_hash (md, md2, fp, textmode)` on the bytes `s` that `fp` yields: what `md` and `md2`
get, each present or not. -/
def doHash (hasMd hasMd2 : Bool) (s : List UInt8) : List UInt8 × List UInt8 :=
  if hasMd2 then (if hasMd then s else [], doHashMd2 none s)
  else (if hasMd then s else [], [])

/-! ## Line ends as CR LF -/

/-- `s` with every line end, a CR LF pair, a lone LF or a lone CR, written as CR LF, and every
other byte kept. -/
def crlfLineEnds : List UInt8 → List UInt8
  | [] => []
  | [c] => if c = 13 ∨ c = 10 then [13, 10] else [c]
  | c :: d :: s =>
    if c = 13 ∧ d = 10 then 13 :: 10 :: crlfLineEnds s
    else if c = 13 ∨ c = 10 then 13 :: 10 :: crlfLineEnds (d :: s)
    else c :: crlfLineEnds (d :: s)

example :
    crlfLineEnds [97, 13, 98, 10, 13, 10, 13] = [97, 13, 10, 98, 13, 10, 13, 10, 13, 10] := by
  decide

lemma crlfLineEnds_cr_lf (s : List UInt8) :
    crlfLineEnds (13 :: 10 :: s) = 13 :: 10 :: crlfLineEnds s := by
  simp [crlfLineEnds]

/-- A CR that no LF follows is a line end of its own. -/
lemma crlfLineEnds_cr {s : List UInt8} (h : s.head? ≠ some 10) :
    crlfLineEnds (13 :: s) = 13 :: 10 :: crlfLineEnds s := by
  cases s with
  | nil => simp [crlfLineEnds]
  | cons d s =>
    have hd : d ≠ 10 := fun hd => h (by simp [hd])
    simp [crlfLineEnds, hd]

lemma crlfLineEnds_lf (s : List UInt8) :
    crlfLineEnds (10 :: s) = 13 :: 10 :: crlfLineEnds s := by
  cases s <;> simp [crlfLineEnds]

lemma crlfLineEnds_other {c : UInt8} (h13 : c ≠ 13) (h10 : c ≠ 10) (s : List UInt8) :
    crlfLineEnds (c :: s) = c :: crlfLineEnds s := by
  cases s <;> simp [crlfLineEnds, h13, h10]

/-! ## The loop computes the line ends, but for a last CR -/

/-- The CR the loop has hashed for a previous byte `lc` whose LF it still owes. -/
def crOwed (lc : Option UInt8) : List UInt8 := if lc = some 13 then [13] else []

/-- **The run.**  From the byte `lc` on, the bytes hashed, after the CR owed for `lc` and followed
by the LF owed for the last byte read, are the line ends of the CR owed and the bytes read. -/
lemma doHashMd2_after :
    ∀ (s : List UInt8) (lc : Option UInt8),
      crOwed lc ++ doHashMd2 lc s ++ (if (s.getLast?).or lc = some 13 then [10] else []) =
        crlfLineEnds (crOwed lc ++ s)
  | [], lc => by
    by_cases h : lc = some 13 <;> simp [crOwed, doHashMd2, h, crlfLineEnds]
  | c :: s, lc => by
    have ih := doHashMd2_after s (some c)
    rw [doHashMd2, getLast?_cons_or]
    by_cases h13 : c = 13
    · -- a CR: hashed now, its LF owed to the next byte
      subst h13
      have ho : crOwed (some 13) = [13] := if_pos rfl
      rw [ho] at ih
      by_cases hl : lc = some 13
      · have hb : doHashMd2Byte (some 13) 13 = [10, 13] := by decide
        rw [hl, ho, hb]
        simp only [List.singleton_append] at ih ⊢
        rw [crlfLineEnds_cr (by simp), ← ih]
        simp
      · simpa [crOwed, hl, doHashMd2Byte] using ih
    · simp only [crOwed, Option.some.injEq, h13, if_false, List.nil_append] at ih
      by_cases h10 : c = 10
      · -- an LF: CR LF, or the LF of an owed CR
        subst h10
        by_cases hl : lc = some 13 <;>
          simp [crOwed, hl, doHashMd2Byte, crlfLineEnds_cr_lf, crlfLineEnds_lf, ← ih]
      · -- any other byte: kept, after the LF of an owed CR
        by_cases hl : lc = some 13
        · simp [crOwed, hl, doHashMd2Byte, h10, crlfLineEnds_other h13 h10, ← ih,
            crlfLineEnds_cr (s := c :: s) (by simpa using h10)]
        · simp [crOwed, hl, doHashMd2Byte, h10, crlfLineEnds_other h13 h10, ← ih]

/-- **What the digests get.**  For every byte sequence `s`, `md` gets `s` unchanged, and `md2`
gets the line ends of `s` as CR LF, except that a CR at the very end of `s` is hashed without
the LF. -/
theorem doHash_md2 (hasMd : Bool) (s : List UInt8) :
    doHash hasMd true s =
      (if hasMd then s else [],
        if s.getLast? = some 13 then (crlfLineEnds s).dropLast else crlfLineEnds s) := by
  have h := doHashMd2_after s none
  simp only [crOwed, Option.or_none, reduceCtorEq, if_false, List.nil_append] at h
  simp only [doHash, if_true, Prod.mk.injEq, true_and]
  split_ifs at h ⊢
  · rw [← h, List.dropLast_concat]
  · simpa using h

example : (doHash true true [97, 13]).2 = [97, 13] ∧ crlfLineEnds [97, 13] = [97, 13, 10] := by
  decide

end NeoPG
