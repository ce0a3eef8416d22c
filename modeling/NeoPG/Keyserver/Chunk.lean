import NeoPG.Keyserver.Desc

/-!
# One `KS_GET` request: `keyserver_get_chunk`

`keyserver_get_chunk` walks the descriptor array, turns each descriptor into a search pattern
(`0x` and hex for key ids and fingerprints, `=` and the name for an exact search), and charges
an estimate of the pattern's length against `MAX_KS_GET_LINELEN`.  It stops before a descriptor
that would push the estimate over the limit, but never before the first one, so a call that does
not fail always consumes something.  The patterns go to `gpg_dirmngr_ks_get`; the key stream that
comes back is imported through `keyserver_retrieval_screener`, screened against the descriptors
the call considered.

The collaborators are a `ChunkEnv`: the outcome of each allocation of the call and of the
transport request.  The call reports back a `ChunkReport` with everything the caller and the
transport see: `*r_ndesc_used`, the request, the import, and the error.

* `ksGetItem` is the per-descriptor case split of the loop: skip, a pattern with its estimate,
  or `BUG ()`.
* `getChunkLoop_done` is the loop's specification on the modes `keyserver_get` is called with:
  it either runs out of memory or stops after `u` descriptors having built exactly their
  patterns, with `u ≥ 1` from index `0`.
* `keyserverGetChunk_cases` lifts that to the whole call, and `keyserverGetChunk_progress` is the
  progress fact, for any input, on which the termination of `keyserver_get` rests.
-/

namespace NeoPG

variable {S : Type}

/-- `MAX_KS_GET_LINELEN`: "somewhat lower than the real limit". -/
def maxKsGetLinelen : Nat := 950

/-- What the loop does with one descriptor. -/
inductive KsGetItem
  /-- `KEYDB_SEARCH_MODE_NONE`: `continue`. -/
  | skip
  /-- A pattern `p`, for which the line-length estimate grows by `n`. -/
  | pattern (n : Nat) (p : CStr)
  /-- Any other mode: `BUG ()`. -/
  | bug

/-- The branch of `keyserver_get_chunk`'s loop a descriptor takes.  Both fingerprint modes are
charged `1 + 2 + 2 * 20`, although a v3 fingerprint encodes in 34 bytes. -/
def ksGetItem : KeydbSearchDesc → KsGetItem
  | .fpr20 f => .pattern (1 + 2 + 2 * 20) (['0', 'x'] ++ bin2hex f.toList)
  | .fpr16 f => .pattern (1 + 2 + 2 * 20) (['0', 'x'] ++ bin2hex f.toList)
  | .longKid k0 k1 => .pattern (1 + 2 + 16) (['0', 'x'] ++ hex08 k0 ++ hex08 k1)
  | .shortKid k1 => .pattern (1 + 2 + 8) (['0', 'x'] ++ hex08 k1)
  | .exact name => .pattern (1 + 1 + name.length) ('=' :: name)
  | .none => .skip
  | _ => .bug

/-- A mode the loop handles without `BUG ()`: a get mode or `NONE`. -/
def KeydbSearchDesc.chunkable (d : KeydbSearchDesc) : Bool := d.isGetMode || d == .none

/-- The pattern of a descriptor, if it gets one. -/
def ksGetPatternOf (d : KeydbSearchDesc) : Option CStr :=
  match ksGetItem d with
  | .pattern _ p => some p
  | _ => Option.none

/-- The patterns a slice of descriptors encodes to: one per non-`NONE` descriptor, in order. -/
def ksGetPatterns (desc : List KeydbSearchDesc) : List CStr := desc.filterMap ksGetPatternOf

lemma ksGetItem_ne_bug {d : KeydbSearchDesc} (h : d.chunkable) : ksGetItem d ≠ .bug := by
  cases d <;> simp_all [ksGetItem, KeydbSearchDesc.chunkable, KeydbSearchDesc.isGetMode,
    KeydbSearchDesc.isKeyId]

@[simp] lemma ksGetPatterns_nil : ksGetPatterns [] = [] := rfl

lemma ksGetPatterns_cons_skip {d : KeydbSearchDesc} (h : ksGetItem d = .skip)
    (rest : List KeydbSearchDesc) : ksGetPatterns (d :: rest) = ksGetPatterns rest := by
  simp [ksGetPatterns, ksGetPatternOf, h]

lemma ksGetPatterns_cons_pattern {d : KeydbSearchDesc} {n : Nat} {p : CStr}
    (h : ksGetItem d = .pattern n p) (rest : List KeydbSearchDesc) :
    ksGetPatterns (d :: rest) = p :: ksGetPatterns rest := by
  simp [ksGetPatterns, ksGetPatternOf, h]

/-! ## The pattern loop -/

/-- How the pattern loop ends. -/
inductive ChunkLoopEnd
  /-- The loop left at index `idx`, with the patterns built so far. -/
  | done (idx : Nat) (pattern : List CStr)
  /-- The allocation of a pattern failed. -/
  | outOfCore
  /-- `BUG ()`. -/
  | bug

/-- The pattern loop of `keyserver_get_chunk`, from descriptor `idx` of the array, with
`linelen` charged so far and the patterns built so far.  `allocOk k` is the outcome of the
`k`-th allocation of the call; the `0`-th was the pattern array, so pattern `k` is `k + 1`. -/
def getChunkLoop (allocOk : Nat → Bool) :
    List KeydbSearchDesc → Nat → Nat → List CStr → ChunkLoopEnd
  | [], idx, _, pattern => .done idx pattern
  | d :: rest, idx, linelen, pattern =>
    match ksGetItem d with
    | .skip => getChunkLoop allocOk rest (idx + 1) linelen pattern
    | .bug => .bug
    | .pattern n p =>
      if idx ≠ 0 ∧ linelen + n > maxKsGetLinelen then .done idx pattern
      else if allocOk (pattern.length + 1) then
        getChunkLoop allocOk rest (idx + 1) (linelen + n) (pattern ++ [p])
      else .outOfCore

/-- **The loop's specification.**  On descriptors it can encode, the loop either runs out of
memory or stops after some `u` descriptors having built exactly their patterns; started at
index `0` on a non-empty array it consumes at least one. -/
lemma getChunkLoop_done (allocOk : Nat → Bool) :
    ∀ (desc : List KeydbSearchDesc) (idx linelen : Nat) (pattern : List CStr),
      (∀ d ∈ desc, d.chunkable) →
      getChunkLoop allocOk desc idx linelen pattern = .outOfCore ∨
      ∃ u ≤ desc.length, (idx = 0 → desc ≠ [] → 0 < u) ∧
        getChunkLoop allocOk desc idx linelen pattern =
          .done (idx + u) (pattern ++ ksGetPatterns (desc.take u))
  | [], idx, _, pattern, _ => .inr ⟨0, le_rfl, by simp, by simp [getChunkLoop]⟩
  | d :: rest, idx, linelen, pattern, h => by
    have hrest : ∀ d ∈ rest, d.chunkable := fun d' hd' => h d' (List.mem_cons_of_mem _ hd')
    cases hd : ksGetItem d with
    | bug => exact absurd hd (ksGetItem_ne_bug (h d (List.mem_cons_self _ _)))
    | skip =>
      rcases getChunkLoop_done allocOk rest (idx + 1) linelen pattern hrest with
        hl | ⟨u, hu, -, hl⟩
      · left; simpa [getChunkLoop, hd] using hl
      · right
        refine ⟨u + 1, by simpa using hu, fun _ _ => by omega, ?_⟩
        simp only [getChunkLoop, hd, hl, List.take_succ_cons, ksGetPatterns_cons_skip hd]
        congr 1
        omega
    | pattern n p =>
      by_cases hbrk : idx ≠ 0 ∧ linelen + n > maxKsGetLinelen
      · right
        exact ⟨0, by simp, fun h0 => absurd h0 hbrk.1, by simp [getChunkLoop, hd, hbrk]⟩
      by_cases ha : allocOk (pattern.length + 1)
      · rcases getChunkLoop_done allocOk rest (idx + 1) (linelen + n) (pattern ++ [p]) hrest
          with hl | ⟨u, hu, -, hl⟩
        · left; simpa [getChunkLoop, hd, hbrk, ha] using hl
        · right
          refine ⟨u + 1, by simpa using hu, fun _ _ => by omega, ?_⟩
          simp only [getChunkLoop, hd, hbrk, ha, if_false, if_true, hl, List.take_succ_cons,
            ksGetPatterns_cons_pattern hd, List.append_assoc, List.singleton_append]
          congr 1
          omega
      · left; simp [getChunkLoop, hd, hbrk, ha]

/-- On any input, a loop started at index `0` that ends normally has consumed something when
there was something to consume. -/
lemma getChunkLoop_progress (allocOk : Nat → Bool) :
    ∀ (desc : List KeydbSearchDesc) (idx linelen : Nat) (pattern : List CStr) (idx' : Nat)
      (pattern' : List CStr),
      getChunkLoop allocOk desc idx linelen pattern = .done idx' pattern' →
      idx ≤ idx' ∧ (idx = 0 → desc ≠ [] → 0 < idx')
  | [], idx, _, pattern, idx', pattern', h => by
    obtain ⟨rfl, -⟩ := (ChunkLoopEnd.done.injEq _ _ _ _).mp h
    exact ⟨le_rfl, fun _ hne => absurd rfl hne⟩
  | d :: rest, idx, linelen, pattern, idx', pattern', h => by
    unfold getChunkLoop at h
    split at h
    · have := getChunkLoop_progress allocOk rest _ _ _ _ _ h
      omega
    · cases h
    · split_ifs at h with hbrk ha
      · cases h
        exact ⟨le_rfl, fun h0 => absurd h0 hbrk.1⟩
      · have := getChunkLoop_progress allocOk rest _ _ _ _ _ h
        omega

/-! ## The call -/

/-- What the collaborators of one `keyserver_get_chunk` call do. -/
structure ChunkEnv (S : Type) where
  /-- Whether the `k`-th allocation of the call succeeds; the `0`-th is the pattern array. -/
  allocOk : Nat → Bool
  /-- What `gpg_dirmngr_ks_get` returns: a key stream, or an error. -/
  ksGet : Except GpgErr S

/-- What one `keyserver_get_chunk` call did. -/
structure ChunkReport (S : Type) where
  /-- `*r_ndesc_used`. -/
  ndescUsed : Nat
  /-- The patterns handed to `gpg_dirmngr_ks_get`, when the call got that far. -/
  request : Option (List CStr)
  /-- The key stream handed to `import_keys_es_stream`, and the descriptors its screener gets. -/
  imported : Option (S × List KeydbSearchDesc)
  /-- The error returned. -/
  err : Option GpgErr

/-- The report of a call whose allocation failed: nothing consumed, nothing sent. -/
def ChunkReport.allocFailed : ChunkReport S := ⟨0, none, none, some .enomem⟩

/-- The end of `keyserver_get_chunk` once the loop has left at `idx`: send the patterns, and on
success import the stream, screened against the `idx` descriptors considered. -/
def sendChunk (ksGet : Except GpgErr S) (desc : List KeydbSearchDesc) (idx : Nat)
    (pattern : List CStr) : ChunkReport S :=
  match ksGet with
  | .error e => ⟨idx, some pattern, none, some e⟩
  | .ok s => ⟨idx, some pattern, some (s, desc.take idx), none⟩

/-- `keyserver_get_chunk` on the array `desc[0..ndesc)`. -/
def keyserverGetChunk (env : ChunkEnv S) (desc : List KeydbSearchDesc) :
    Except Fault (ChunkReport S) :=
  if env.allocOk 0 then
    match getChunkLoop env.allocOk desc 0 17 [] with
    | .done idx pattern => .ok (sendChunk env.ksGet desc idx pattern)
    | .outOfCore => .ok .allocFailed
    | .bug => .error .bug
  else .ok .allocFailed

@[simp] lemma sendChunk_ndescUsed (ksGet : Except GpgErr S) (desc : List KeydbSearchDesc)
    (idx : Nat) (pattern : List CStr) : (sendChunk ksGet desc idx pattern).ndescUsed = idx := by
  cases ksGet <;> rfl

@[simp] lemma sendChunk_request (ksGet : Except GpgErr S) (desc : List KeydbSearchDesc)
    (idx : Nat) (pattern : List CStr) :
    (sendChunk ksGet desc idx pattern).request = some pattern := by
  cases ksGet <;> rfl

/-- **The call's specification.**  On descriptors it can encode, a call either fails to
allocate, reporting nothing used, or consumes `u` descriptors (at least one of a non-empty
array), requests exactly their patterns, and screens the returned stream against exactly them. -/
theorem keyserverGetChunk_cases (env : ChunkEnv S) {desc : List KeydbSearchDesc}
    (h : ∀ d ∈ desc, d.chunkable) :
    keyserverGetChunk env desc = .ok .allocFailed ∨
    ∃ u ≤ desc.length, (desc ≠ [] → 0 < u) ∧
      keyserverGetChunk env desc =
        .ok (sendChunk env.ksGet desc u (ksGetPatterns (desc.take u))) := by
  unfold keyserverGetChunk
  by_cases ha : env.allocOk 0
  · rcases getChunkLoop_done env.allocOk desc 0 17 [] h with hl | ⟨u, hu, hpos, hl⟩
    · left; simp [ha, hl]
    · right; exact ⟨u, hu, hpos rfl, by simp [ha, hl]⟩
  · left; simp [ha]

/-- **Progress**, on any input: a call that returns no error consumed at least one descriptor
of a non-empty array. -/
theorem keyserverGetChunk_progress {env : ChunkEnv S} {desc : List KeydbSearchDesc}
    {r : ChunkReport S} (h : keyserverGetChunk env desc = .ok r) (herr : r.err = none)
    (hne : desc ≠ []) : 0 < r.ndescUsed := by
  unfold keyserverGetChunk at h
  split_ifs at h
  · split at h
    · rename_i idx pattern hl
      cases h
      simpa using (getChunkLoop_progress _ _ _ _ _ _ _ hl).2 rfl hne
    · cases h; cases herr
    · cases h
  · cases h; cases herr

end NeoPG
