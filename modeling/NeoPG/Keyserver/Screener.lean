import NeoPG.Keyserver.Desc

/-!
# Screening what a keyserver returns: `keyserver_retrieval_screener`

A keyserver answers a `KS_GET` with a stream of key blocks, and it chooses what is in them.
Before a block is imported, `keyserver_retrieval_screener` checks it against the descriptors of
the request: a block holding a secret key is refused outright, a request without descriptors
takes anything, and otherwise some public key or subkey of the block must match some
descriptor.  The C is a loop over the block's packets with a loop over the descriptors inside
it, leaving through `return 0` at the first match.

A key block is the list of its packets, each reduced to the packet type the screener tests and,
for key packets, the fingerprint and key id that `fingerprint_from_pk` and `keyid_from_pk`
compute for it.

`keyMatches` is the tiered comparison the screener is meant to implement, stated per
descriptor: a full fingerprint of the right length, a full or a low 32-bit key id, and any
other mode accepted since it cannot be checked.  **`keyserverRetrievalScreener_eq_none_iff`**
shows that the nested loop with its early returns is exactly "no secret key, and no descriptors
or some key packet matching some descriptor".
-/

namespace NeoPG

/-- What the screener reads of a key packet: `fingerprint_from_pk` (its length is `fpr_len`),
`keyid_from_pk`, and the version `keyidlist` looks at. -/
structure PublicKey where
  fpr : List UInt8
  keyid : UInt32 × UInt32
  version : Nat
  deriving DecidableEq

/-- A packet of a key block, by the `pkttype` the keyserver code tests. -/
inductive Packet
  /-- `PKT_PUBLIC_KEY`. -/
  | publicKey (pk : PublicKey)
  /-- `PKT_PUBLIC_SUBKEY`. -/
  | publicSubkey (pk : PublicKey)
  /-- `PKT_SECRET_KEY`. -/
  | secretKey
  /-- `PKT_SECRET_SUBKEY`, which the screener leaves to the import code. -/
  | secretSubkey
  /-- User ids, signatures and every other packet type. -/
  | other
  deriving DecidableEq

/-- The public key of a `PKT_PUBLIC_KEY` or `PKT_PUBLIC_SUBKEY` packet. -/
def Packet.keyOf : Packet → Option PublicKey
  | publicKey pk | publicSubkey pk => some pk
  | _ => none

/-- `find_kbnode (keyblock, PKT_SECRET_KEY)` finds a node. -/
def hasSecretKey (keyblock : List Packet) : Bool := keyblock.any (· == .secretKey)

/-- The loop over the descriptors for one key packet; `true` is the C's `return 0`. -/
def screenDescLoop (pk : PublicKey) : List KeydbSearchDesc → Bool
  | [] => false
  | d :: rest =>
    match d with
    | .fpr20 f => if pk.fpr.length = 20 ∧ pk.fpr = f.toList then true else screenDescLoop pk rest
    | .fpr16 f => if pk.fpr.length = 16 ∧ pk.fpr = f.toList then true else screenDescLoop pk rest
    | .longKid k0 k1 => if pk.keyid.1 = k0 ∧ pk.keyid.2 = k1 then true else screenDescLoop pk rest
    | .shortKid k1 => if pk.keyid.2 = k1 then true else screenDescLoop pk rest
    | _ => true

/-- The loop over the packets of the block; `true` is the C's `return 0`. -/
def screenKeyLoop (desc : List KeydbSearchDesc) : List Packet → Bool
  | [] => false
  | p :: rest =>
    match p.keyOf with
    | some pk => screenDescLoop pk desc || screenKeyLoop desc rest
    | none => screenKeyLoop desc rest

/-- `keyserver_retrieval_screener`: `none` (0) when the block may be imported,
`GPG_ERR_GENERAL` when not. -/
def keyserverRetrievalScreener (keyblock : List Packet) (desc : List KeydbSearchDesc) :
    Option GpgErr :=
  if hasSecretKey keyblock then some .general
  else if desc = [] then none
  else if screenKeyLoop desc keyblock then none
  else some .general

/-- The tiered comparison of a requested descriptor with a key packet: an exact 20- or 16-byte
fingerprint, an exact 64-bit key id, the low 32 bits of the key id; a descriptor of any other
mode cannot be checked and matches. -/
def keyMatches (d : KeydbSearchDesc) (pk : PublicKey) : Bool :=
  match d with
  | .fpr20 f => pk.fpr.length = 20 ∧ pk.fpr = f.toList
  | .fpr16 f => pk.fpr.length = 16 ∧ pk.fpr = f.toList
  | .longKid k0 k1 => pk.keyid = (k0, k1)
  | .shortKid k1 => pk.keyid.2 = k1
  | _ => true

/-- One turn of the inner loop: the descriptor matches, or the loop goes on with the rest. -/
lemma screenDescLoop_cons (pk : PublicKey) (d : KeydbSearchDesc) (rest : List KeydbSearchDesc) :
    screenDescLoop pk (d :: rest) = (keyMatches d pk || screenDescLoop pk rest) := by
  cases d <;> simp only [screenDescLoop, keyMatches, Bool.if_true_left, Prod.ext_iff, Bool.true_or]

/-- The inner loop leaves with `return 0` exactly when some descriptor matches the key. -/
lemma screenDescLoop_iff (pk : PublicKey) :
    ∀ desc : List KeydbSearchDesc, screenDescLoop pk desc ↔ ∃ d ∈ desc, keyMatches d pk
  | [] => by simp [screenDescLoop]
  | d :: rest => by simp [screenDescLoop_cons, screenDescLoop_iff pk rest]

/-- The outer loop leaves with `return 0` exactly when some key packet matches some
descriptor. -/
lemma screenKeyLoop_iff (desc : List KeydbSearchDesc) :
    ∀ keyblock : List Packet, screenKeyLoop desc keyblock ↔
      ∃ p ∈ keyblock, ∃ pk, p.keyOf = some pk ∧ ∃ d ∈ desc, keyMatches d pk
  | [] => by simp [screenKeyLoop]
  | p :: rest => by
    have ih := screenKeyLoop_iff desc rest
    cases hp : p.keyOf with
    | none => simp [screenKeyLoop, hp, ih]
    | some pk => simp [screenKeyLoop, hp, ih, screenDescLoop_iff]

/-- **What the screener accepts.**  For every key block and every descriptor array, the screener
lets the block be imported exactly when the block holds no `PKT_SECRET_KEY` packet and either no
descriptor was given or some public key or subkey packet of the block matches some descriptor. -/
theorem keyserverRetrievalScreener_eq_none_iff (keyblock : List Packet)
    (desc : List KeydbSearchDesc) :
    keyserverRetrievalScreener keyblock desc = none ↔
      .secretKey ∉ keyblock ∧
        (desc = [] ∨ ∃ p ∈ keyblock, ∃ pk, p.keyOf = some pk ∧ ∃ d ∈ desc, keyMatches d pk) := by
  have hsec : hasSecretKey keyblock = true ↔ .secretKey ∈ keyblock := by simp [hasSecretKey]
  unfold keyserverRetrievalScreener
  by_cases hs : hasSecretKey keyblock <;> by_cases hd : desc = [] <;>
    simp_all [← screenKeyLoop_iff]

end NeoPG
