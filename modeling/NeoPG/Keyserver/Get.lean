import NeoPG.Keyserver.Chunk

/-!
# Fetching keys in batches: `keyserver_get`

`keyserver_get` calls `keyserver_get_chunk` on what is left of the descriptor array, advances by
the `ndesc_used` the chunk reports, and stops at the first chunk that returns an error or once
the chunk reports the rest consumed.  Import statistics are printed when some chunk succeeded.

The C loop is a `for (;;)`; it terminates because a chunk that returns no error consumes at
least one descriptor (`keyserverGetChunk_progress`).  The model's recursion is on the number of
descriptors left and uses exactly that fact, so the model is total by the same argument.

`ChunksFollow` says what each chunk call of a run did, in terms of the slice it consumed:
chunk `k` is called on what the earlier chunks left, uses the `k`-th collaborator outcome, and
either fails to allocate (consuming nothing and sending nothing) or consumes a non-empty slice,
requests exactly that slice's patterns and screens the returned key stream against exactly that
slice.  `GetRunOk` adds the rest of the loop's contract, and `keyserverGetLoop_ok` proves it of
every run: the number of chunk calls is at most `max 1 ndesc`, the run stops at the first error
and returns it, a run without error consumes every descriptor, and statistics are printed
exactly when some chunk succeeded.
-/

namespace NeoPG

variable {S : Type}

/-- What `keyserver_get` did: the chunk calls in order, the error it returns, and whether it
printed the import statistics. -/
structure GetReport (S : Type) where
  /-- The `keyserver_get_chunk` calls, in order. -/
  chunks : List (ChunkReport S)
  /-- The error returned. -/
  err : Option GpgErr
  /-- `any_good`: whether `import_print_stats` was called. -/
  printStats : Bool

/-- The loop of `keyserver_get`: chunk call number `call` (the index into the collaborators'
outcomes) on the descriptors not yet consumed, with `any_good` so far. -/
def keyserverGetLoop (env : Nat → ChunkEnv S) (call : Nat) (desc : List KeydbSearchDesc)
    (anyGood : Bool) : Except Fault (GetReport S) :=
  match h : keyserverGetChunk (env call) desc with
  | .error f => .error f
  | .ok r =>
    if hstop : r.err.isSome ∨ desc.length ≤ r.ndescUsed then
      .ok ⟨[r], r.err, anyGood || r.err.isNone⟩
    else
      (keyserverGetLoop env (call + 1) (desc.drop r.ndescUsed) (anyGood || r.err.isNone)).map
        fun g => { g with chunks := r :: g.chunks }
termination_by desc.length
decreasing_by
  have herr : r.err = none := by simpa using (not_or.mp hstop).1
  have hne : desc ≠ [] := by rintro rfl; simp at hstop
  have := keyserverGetChunk_progress h herr hne
  simp only [List.length_drop]
  omega

/-- `keyserver_get`, its chunk calls numbered from `call`. -/
def keyserverGet (env : Nat → ChunkEnv S) (call : Nat) (desc : List KeydbSearchDesc) :
    Except Fault (GetReport S) :=
  keyserverGetLoop env call desc false

/-- One turn of the loop, once the chunk call's report `r` is known. -/
lemma keyserverGetLoop_of_chunk {env : Nat → ChunkEnv S} {call : Nat}
    {desc : List KeydbSearchDesc} {anyGood : Bool} {r : ChunkReport S}
    (h : keyserverGetChunk (env call) desc = .ok r) :
    keyserverGetLoop env call desc anyGood =
      if r.err.isSome ∨ desc.length ≤ r.ndescUsed then .ok ⟨[r], r.err, anyGood || r.err.isNone⟩
      else (keyserverGetLoop env (call + 1) (desc.drop r.ndescUsed) (anyGood || r.err.isNone)).map
        fun g => { g with chunks := r :: g.chunks } := by
  rw [keyserverGetLoop]
  split
  · simp_all
  · rename_i r' h'
    obtain rfl : r' = r := by simpa [h] using h'.symm
    rfl

/-! ## What a run does -/

/-- What each chunk call of a run did, in terms of the slice it consumed. -/
def ChunksFollow (env : Nat → ChunkEnv S) :
    Nat → List KeydbSearchDesc → List (ChunkReport S) → Prop
  | _, _, [] => True
  | call, desc, r :: rs =>
    (r = .allocFailed ∨
      ((desc ≠ [] → 0 < r.ndescUsed) ∧ r.ndescUsed ≤ desc.length ∧
        r = sendChunk (env call).ksGet desc r.ndescUsed (ksGetPatterns (desc.take r.ndescUsed)))) ∧
    ChunksFollow env (call + 1) (desc.drop r.ndescUsed) rs

/-- The contract of the loop of `keyserver_get`, for a run from call `call` on `desc` with
`any_good` starting at `anyGood`. -/
structure GetRunOk (env : Nat → ChunkEnv S) (call : Nat) (desc : List KeydbSearchDesc)
    (anyGood : Bool) (g : GetReport S) : Prop where
  nonempty : g.chunks ≠ []
  /-- At most `max 1 ndesc` chunk calls. -/
  bound : g.chunks.length ≤ max 1 desc.length
  follow : ChunksFollow env call desc g.chunks
  /-- Only the last chunk call can have failed. -/
  stopsAtError : ∀ r ∈ g.chunks.dropLast, r.err = none
  /-- The error returned is the last chunk's. -/
  err_eq : g.err = g.chunks.getLast?.bind ChunkReport.err
  /-- A run that returns no error consumed every descriptor. -/
  complete : g.err = none → (g.chunks.map ChunkReport.ndescUsed).sum = desc.length
  /-- Statistics are printed exactly when some chunk call succeeded. -/
  printStats_eq : g.printStats = (anyGood || g.chunks.any fun r => r.err.isNone)

/-- The single chunk call of a run that stops at once. -/
lemma getRunOk_last {env : Nat → ChunkEnv S} {call : Nat} {desc : List KeydbSearchDesc}
    {r : ChunkReport S} (anyGood : Bool) (hfollow : ChunksFollow env call desc [r])
    (hstop : r.err.isSome ∨ desc.length ≤ r.ndescUsed) (hle : r.ndescUsed ≤ desc.length) :
    GetRunOk env call desc anyGood ⟨[r], r.err, anyGood || r.err.isNone⟩ where
  nonempty := List.cons_ne_nil _ _
  bound := by simp
  follow := hfollow
  stopsAtError := by simp
  err_eq := by simp
  complete := fun h => by
    have : desc.length ≤ r.ndescUsed := by simpa [show r.err = none from h] using hstop
    simp only [List.map_cons, List.map_nil, List.sum_cons, List.sum_nil, Nat.add_zero]
    omega
  printStats_eq := by simp

/-- A chunk call that succeeds without consuming everything, followed by a run on the rest. -/
lemma getRunOk_cons {env : Nat → ChunkEnv S} {call : Nat} {desc : List KeydbSearchDesc}
    {r : ChunkReport S} {anyGood : Bool} {g : GetReport S}
    (hr : (r = .allocFailed ∨
      ((desc ≠ [] → 0 < r.ndescUsed) ∧ r.ndescUsed ≤ desc.length ∧
        r = sendChunk (env call).ksGet desc r.ndescUsed (ksGetPatterns (desc.take r.ndescUsed)))))
    (herr : r.err = none) (hlt : r.ndescUsed < desc.length) (hpos : 0 < r.ndescUsed)
    (hg : GetRunOk env (call + 1) (desc.drop r.ndescUsed) (anyGood || r.err.isNone) g) :
    GetRunOk env call desc anyGood { g with chunks := r :: g.chunks } where
  nonempty := List.cons_ne_nil _ _
  bound := by
    have := hg.bound
    simp only [List.length_drop, List.length_cons] at this ⊢
    omega
  follow := ⟨hr, hg.follow⟩
  stopsAtError := by
    show ∀ r' ∈ (r :: g.chunks).dropLast, r'.err = none
    rw [List.dropLast_cons_of_ne_nil hg.nonempty]
    rintro r' (_ | ⟨_, hr'⟩)
    · exact herr
    · exact hg.stopsAtError r' hr'
  err_eq := by
    show g.err = (r :: g.chunks).getLast?.bind ChunkReport.err
    obtain ⟨b, l, hbl⟩ := List.exists_cons_of_ne_nil hg.nonempty
    rw [hg.err_eq, hbl, List.getLast?_cons_cons]
  complete := fun h => by
    have := hg.complete h
    simp only [List.map_cons, List.sum_cons, this, List.length_drop]
    omega
  printStats_eq := by simp [hg.printStats_eq, herr]

/-- **Every run of the loop meets the contract**, on descriptors of the modes the chunk can
encode, for every outcome of every allocation and transport call. -/
theorem keyserverGetLoop_ok (env : Nat → ChunkEnv S) :
    ∀ (desc : List KeydbSearchDesc) (call : Nat) (anyGood : Bool),
      (∀ d ∈ desc, d.chunkable) →
      ∃ g, keyserverGetLoop env call desc anyGood = .ok g ∧ GetRunOk env call desc anyGood g := by
  suffices ∀ n (desc : List KeydbSearchDesc), desc.length = n → ∀ (call : Nat) (anyGood : Bool),
      (∀ d ∈ desc, d.chunkable) →
      ∃ g, keyserverGetLoop env call desc anyGood = .ok g ∧ GetRunOk env call desc anyGood g from
    fun desc => this _ desc rfl
  intro n
  induction n using Nat.strong_induction_on with
  | _ n ih =>
  intro desc hn call anyGood hdesc
  rcases keyserverGetChunk_cases (env call) hdesc with hc | ⟨u, hu, hpos, hc⟩
  · have hstop : (ChunkReport.allocFailed : ChunkReport S).err.isSome := rfl
    refine ⟨_, by rw [keyserverGetLoop_of_chunk hc, if_pos (.inl hstop)], ?_⟩
    exact getRunOk_last anyGood ⟨.inl rfl, trivial⟩ (.inl hstop) (Nat.zero_le _)
  · set r := sendChunk (env call).ksGet desc u (ksGetPatterns (desc.take u)) with hr
    have hused : r.ndescUsed = u := by simp [hr]
    have hfirst : (r = .allocFailed ∨
        ((desc ≠ [] → 0 < r.ndescUsed) ∧ r.ndescUsed ≤ desc.length ∧
          r = sendChunk (env call).ksGet desc r.ndescUsed
            (ksGetPatterns (desc.take r.ndescUsed)))) :=
      .inr ⟨hused ▸ hpos, hused ▸ hu, by rw [hused]⟩
    by_cases hstop : r.err.isSome ∨ desc.length ≤ r.ndescUsed
    · refine ⟨_, by rw [keyserverGetLoop_of_chunk hc, if_pos hstop], ?_⟩
      exact getRunOk_last anyGood ⟨hfirst, trivial⟩ hstop (hused ▸ hu)
    · have herr : r.err = none := by simpa using (not_or.mp hstop).1
      have hlt : r.ndescUsed < desc.length := by simpa using (not_or.mp hstop).2
      have hne : desc ≠ [] := by rintro rfl; simp at hlt
      have hu0 : 0 < u := hpos hne
      obtain ⟨g, hg, hok⟩ := ih (desc.length - u) (by omega) (desc.drop u) (by simp)
        (call + 1) (anyGood || r.err.isNone)
        (fun d hd => hdesc d (List.mem_of_mem_drop hd))
      refine ⟨_, by rw [keyserverGetLoop_of_chunk hc, if_neg hstop, hused, hg]; rfl, ?_⟩
      exact getRunOk_cons hfirst herr hlt (hused ▸ hu0) (hused ▸ hok)

/-- Over a run that follows the chunk specification, the requests together are exactly the
patterns of the consumed prefix: every non-`NONE` descriptor of it is requested once, in order. -/
lemma requests_eq_of_follow {env : Nat → ChunkEnv S} :
    ∀ {call : Nat} {desc : List KeydbSearchDesc} {rs : List (ChunkReport S)},
      ChunksFollow env call desc rs →
      (rs.filterMap ChunkReport.request).flatten =
        ksGetPatterns (desc.take (rs.map ChunkReport.ndescUsed).sum)
  | _, _, [], _ => by simp
  | call, desc, r :: rs, ⟨hr, hrs⟩ => by
    have ih := requests_eq_of_follow hrs
    rcases hr with rfl | ⟨-, -, hreq⟩
    · simpa [ChunkReport.allocFailed] using ih
    · have hreq' : r.request = some (ksGetPatterns (desc.take r.ndescUsed)) := by
        conv_lhs => rw [hreq]
        exact sendChunk_request _ _ _ _
      simp only [List.filterMap_cons, hreq', List.flatten_cons, ih, List.map_cons, List.sum_cons,
        List.take_add, ksGetPatterns, List.filterMap_append]

/-! ## `keyserver_get` -/

/-- **`keyserver_get` in batches.**  For every descriptor array of the modes `FPR20`, `FPR16`,
`LONG_KID`, `SHORT_KID`, `EXACT` (names of any length) and `NONE`, and every outcome of every
allocation and transport call, `keyserver_get` returns after at most `max 1 ndesc` chunk calls;
the chunks consume consecutive slices from index `0`, each one that sends a request a non-empty
slice (of a non-empty array), requesting exactly that slice's patterns and screening the returned
stream against exactly that slice; the run stops at the first failing chunk and returns its
error, a run without error has consumed everything, and statistics are printed exactly when some
chunk succeeded.  Over the whole call every non-`NONE` descriptor of the consumed prefix is
requested exactly once. -/
theorem keyserverGet_batches (env : Nat → ChunkEnv S) (call : Nat) (desc : List KeydbSearchDesc)
    (hdesc : ∀ d ∈ desc, d.chunkable) :
    ∃ g, keyserverGet env call desc = .ok g ∧ GetRunOk env call desc false g ∧
      (g.chunks.filterMap ChunkReport.request).flatten =
        ksGetPatterns (desc.take (g.chunks.map ChunkReport.ndescUsed).sum) := by
  obtain ⟨g, hg, hok⟩ := keyserverGetLoop_ok env desc call false hdesc
  exact ⟨g, hg, hok, requests_eq_of_follow hok.follow⟩

/-- Every transport call succeeding, on one long key id. -/
theorem keyserverGet_batches_longKid :
    (∀ d ∈ [KeydbSearchDesc.longKid 1 2], d.chunkable) ∧
    ∃ g, keyserverGet (fun _ => (⟨fun _ => true, .ok ()⟩ : ChunkEnv Unit)) 0
        [KeydbSearchDesc.longKid 1 2] = .ok g ∧
      GetRunOk (fun _ => ⟨fun _ => true, .ok ()⟩) 0 [KeydbSearchDesc.longKid 1 2] false g ∧
      (g.chunks.filterMap ChunkReport.request).flatten =
        ksGetPatterns ([KeydbSearchDesc.longKid 1 2].take (g.chunks.map ChunkReport.ndescUsed).sum) :=
  ⟨by decide, keyserverGet_batches _ 0 _ (by decide)⟩

/-- A chunk whose pattern allocation fails reports `ndesc_used = 0`: on one long key id, with
every allocation but the pattern array's failing, the only chunk consumes nothing. -/
theorem keyserverGet_allocFailure_usesNothing :
    keyserverGet (fun _ => (⟨fun k => k == 0, .ok ()⟩ : ChunkEnv Unit)) 0
        [KeydbSearchDesc.longKid 1 2] = .ok ⟨[.allocFailed], some .enomem, false⟩ := by
  have hc : keyserverGetChunk (⟨fun k => k == 0, .ok ()⟩ : ChunkEnv Unit)
      [KeydbSearchDesc.longKid 1 2] = .ok .allocFailed := rfl
  rw [keyserverGet, keyserverGetLoop_of_chunk hc, if_pos (.inl rfl)]
  rfl

end NeoPG
