import NeoPG.Util.CString
import NeoPG.Util.Errors

/-!
# Keyserver options and keyserver URIs

`parse_keyserver_options` reads the tokens of `--keyserver-options`.  A token goes to
`parse_options` with the table `keyserver_opts`, then to `parse_import_options` and
`parse_export_options`, and `warn_kshelper_option` reports a token that none of them takes.
`parse_options` stores an option's argument through the `value` pointer of the table entry it
matched, when that entry has one.  Before the loop, the function points the entries of
`max-cert-size` and `http-proxy` at its locals `max_cert` and `http_proxy`, which it reads
after the loop.  Both assignments write entry `0`: `keyserver_opts[0].value = &max_cert;
keyserver_opts[0].value = &http_proxy;`.

`parse_keyserver_uri` parses the text before the first space with `set_uri`.  It then sets
the scheme to `"hkp"` whatever the text said, so the `x-hkp` canonicalisation after it never
changes anything.  `keyserver_match` finds the first configured keyserver that
`cmp_keyserver_spec` finds equal to a spec: same scheme and host up to ASCII case, same port.

After the loop, `opt.keyserver_options.http_proxy.emplace (http_proxy)` builds a
`std::string` from the local, which reads through it: when the local is still `NULL`, that is a
read of no string at all, and the model stops there with a fault.

* **`parseKeyserverOptions_maxCert`**: for every token list and every behaviour of the three
  option parsers, `http_proxy` holds what the last `max-cert-size` token stored.  When that is
  a string, the function returns `1` and `max_cert_size` keeps its value; when no such token
  came, or it stored `NULL`, the string is built from `NULL`.  An `http-proxy` token stores
  nothing, so every token list without `max-cert-size` ends in the fault.
* `keyserverMatch_ignoresScheme`: among keyservers parsed by `parse_keyserver_uri`, a spec
  parsed the same way has the scheme `"hkp"`.  It matches the first keyserver with its host,
  up to case, and its port, whatever scheme either was written with.
-/

namespace NeoPG

/-! ## `warn_kshelper_option` -/

/-- The messages `warn_kshelper_option` logs. -/
inductive KshelperWarning
  /-- "keyserver option 'ca-cert-file' is obsolete; please use 'hkp-cacert' in dirmngr.conf" -/
  | caCertFile
  /-- "keyserver option '%s' is obsolete" -/
  | obsolete (option : CStr)
  /-- "keyserver option '%s' is unknown" -/
  | unknown (option : CStr)
  deriving DecidableEq, Repr

/-- `warn_kshelper_option (option, noisy)`: the option is cut at its first `=`. -/
def warnKshelperOption (option : CStr) (noisy verbose : Bool) : Option KshelperWarning :=
  let option := option.takeWhile (· ≠ '=')
  if option = "ca-cert-file".toList then some .caCertFile
  else if option = "check-cert".toList ∨ option = "broken-http-proxy".toList then
    some (.obsolete option)
  else if noisy || verbose then some (.unknown option)
  else none

/-! ## `parse_keyserver_options` -/

/-- The locals of `parse_keyserver_options` whose address goes into `keyserver_opts`. -/
inductive OptLocal
  | maxCert
  | httpProxy
  deriving DecidableEq, Repr

/-- An entry of a `struct parse_options` table: its name and its `value` pointer. -/
structure ParseOptionEntry where
  name : CStr
  value : Option OptLocal
  deriving DecidableEq, Repr

/-- `keyserver_opts` as initialised, no entry with a `value` pointer.  `max-cert-size` "MUST be
the first in this array", `http-proxy` "MUST be the second". -/
def keyserverOpts : List ParseOptionEntry :=
  [⟨"max-cert-size".toList, none⟩, ⟨"http-proxy".toList, none⟩,
    ⟨"include-revoked".toList, none⟩, ⟨"include-subkeys".toList, none⟩,
    ⟨"timeout".toList, none⟩, ⟨"auto-key-retrieve".toList, none⟩]

/-- `opts[i].value = &local`. -/
def setValue (opts : List ParseOptionEntry) (i : Nat) (l : OptLocal) : List ParseOptionEntry :=
  opts.mapIdx fun j e => if j = i then { e with value := some l } else e

/-- The table `parse_options` gets: `keyserver_opts[0].value = &max_cert;
keyserver_opts[0].value = &http_proxy;`. -/
def keyserverOptsSet : List ParseOptionEntry :=
  setValue (setValue keyserverOpts 0 .maxCert) 0 .httpProxy

/-- The value pointer of entry `i` of a table. -/
def ParseOptionEntry.valueAt (opts : List ParseOptionEntry) (i : Nat) : Option OptLocal :=
  (opts.get? i).bind ParseOptionEntry.value

/-- The collaborators of `parse_keyserver_options`, none of them in this file. -/
structure KeyserverOptionsEnv where
  /-- What `parse_options (tok, &opt.keyserver_options.options, opts, 0)` does: `none` when it
  returns `0`.  Otherwise, the index of the entry it matched and what it stores through that
  entry's `value` pointer, a string or `NULL`, if it stores anything. -/
  parseOptions : CStr → List ParseOptionEntry → Option (Option (Nat × Option CStr))
  /-- Whether `parse_import_options (tok, ...)` takes the token. -/
  parseImportOptions : CStr → Bool
  /-- Whether `parse_export_options (tok, ...)` takes the token. -/
  parseExportOptions : CStr → Bool
  /-- `strtoul (max_cert, NULL, 10)`. -/
  strtoul : CStr → Nat
  /-- `opt.verbose`. -/
  verbose : Bool

/-- The locals `max_cert` and `http_proxy`; `none` is `NULL`. -/
structure OptLocals where
  maxCert : Option CStr
  httpProxy : Option CStr

/-- A store through a `value` pointer: into the local it points at, or nowhere. -/
def OptLocals.store (locals : OptLocals) : Option OptLocal → Option CStr → OptLocals
  | none, _ => locals
  | some .maxCert, s => { locals with maxCert := s }
  | some .httpProxy, s => { locals with httpProxy := s }

/-- The loop over the tokens `optsep` yields, with the warnings logged so far. -/
def parseKeyserverOptionsLoop (env : KeyserverOptionsEnv) (opts : List ParseOptionEntry)
    (locals : OptLocals) (warnings : List KshelperWarning) :
    List CStr → OptLocals × List KshelperWarning
  | [] => (locals, warnings)
  | tok :: rest =>
    if tok.isEmpty then parseKeyserverOptionsLoop env opts locals warnings rest
    else
      match env.parseOptions tok opts with
      | some (some (i, s)) =>
        parseKeyserverOptionsLoop env opts (locals.store (ParseOptionEntry.valueAt opts i) s)
          warnings rest
      | some none => parseKeyserverOptionsLoop env opts locals warnings rest
      | none =>
        if env.parseImportOptions tok || env.parseExportOptions tok then
          parseKeyserverOptionsLoop env opts locals warnings rest
        else
          parseKeyserverOptionsLoop env opts locals
            (warnings ++ (warnKshelperOption tok true env.verbose).toList) rest

/-- `DEFAULT_MAX_CERT_SIZE`. -/
def defaultMaxCertSize : Nat := 65536

/-- What `parse_keyserver_options` did when it returned: its return value, the string
`opt.keyserver_options.http_proxy` was emplaced with, `max_cert_size` after it, and the warnings
logged. -/
structure KeyserverOptionsReport where
  ret : Int
  httpProxy : CStr
  maxCertSize : Nat
  warnings : List KshelperWarning

/-- `parse_keyserver_options (options)` with the tokens `optsep` cuts from `options`, entered
with `max_cert_size` at `maxCertSize`.  `http_proxy.emplace (http_proxy)` reads the string the
local points at; from `NULL` there is none to read. -/
def parseKeyserverOptions (env : KeyserverOptionsEnv) (maxCertSize : Nat)
    (tokens : List CStr) : Except Fault KeyserverOptionsReport :=
  let (locals, warnings) := parseKeyserverOptionsLoop env keyserverOptsSet ⟨none, none⟩ [] tokens
  match locals.httpProxy with
  | none => .error .readUnstored
  | some httpProxy =>
    let maxCertSize :=
      match locals.maxCert with
      | some maxCert =>
        if env.strtoul maxCert = 0 then defaultMaxCertSize else env.strtoul maxCert
      | none => maxCertSize
    .ok ⟨1, httpProxy, maxCertSize, warnings⟩

/-! ## The two locals -/

/-- Only entry `0` has a `value` pointer, and it points at `http_proxy`. -/
lemma valueAt_keyserverOptsSet (i : Nat) :
    ParseOptionEntry.valueAt keyserverOptsSet i = if i = 0 then some .httpProxy else none := by
  rcases i with _ | _ | _ | _ | _ | _ | i <;> rfl

/-- What a token stores through entry `i`, if it is not empty and `parse_options` matches it
to that entry. -/
def entryStore (env : KeyserverOptionsEnv) (i : Nat) (tok : CStr) : Option (Option CStr) :=
  if tok.isEmpty then none
  else
    match env.parseOptions tok keyserverOptsSet with
    | some (some (j, s)) => if j = i then some s else none
    | _ => none

/-- **The loop writes only `http_proxy`**, with what the last `max-cert-size` token stored. -/
lemma parseKeyserverOptionsLoop_locals (env : KeyserverOptionsEnv) :
    ∀ (tokens : List CStr) (locals : OptLocals) (warnings : List KshelperWarning),
      (parseKeyserverOptionsLoop env keyserverOptsSet locals warnings tokens).1 =
        ⟨locals.maxCert, ((tokens.filterMap (entryStore env 0)).getLast?).getD locals.httpProxy⟩
  | [], locals, _ => rfl
  | tok :: rest, locals, warnings => by
    have ih := parseKeyserverOptionsLoop_locals env rest
    by_cases hempty : tok.isEmpty
    · rw [parseKeyserverOptionsLoop, if_pos hempty, ih]
      simp [entryStore, hempty]
    · rw [parseKeyserverOptionsLoop, if_neg hempty]
      rcases hp : env.parseOptions tok keyserverOptsSet with _ | _ | ⟨i, s⟩
      · split_ifs <;> rw [ih] <;> simp [entryStore, hempty, hp]
      · rw [ih]
        simp [entryStore, hempty, hp]
      · dsimp only
        rw [ih, valueAt_keyserverOptsSet]
        by_cases hi : i = 0
        · subst hi
          have he : entryStore env 0 tok = some s := by simp [entryStore, hempty, hp]
          rw [List.filterMap_cons_some he, List.getLast?_cons, Option.getD_some]
          rfl
        · simp [entryStore, hempty, hp, hi, OptLocals.store]

/-- **`max-cert-size` never takes effect, and its argument lands in `http_proxy`.**  For every
list of tokens and every behaviour of `parse_options`, `parse_import_options` and
`parse_export_options` (`parse_options` storing only through the table's `value` pointers),
`http_proxy` holds what the last token matched to `max-cert-size` stored; a token matched to
`http-proxy` stores nothing.  When that is a string, `parse_keyserver_options` returns `1`,
emplaces it, and leaves `max_cert_size` as it was.  When no such token came, or it stored
`NULL`, `opt.keyserver_options.http_proxy` is emplaced from `NULL`. -/
theorem parseKeyserverOptions_maxCert (env : KeyserverOptionsEnv) (maxCertSize : Nat)
    (tokens : List CStr) :
    (parseKeyserverOptions env maxCertSize tokens).map
        (fun r => (r.ret, r.httpProxy, r.maxCertSize)) =
      match (tokens.filterMap (entryStore env 0)).getLast? with
      | some (some s) => .ok (1, s, maxCertSize)
      | _ => .error .readUnstored := by
  have h := parseKeyserverOptionsLoop_locals env tokens ⟨none, none⟩ []
  unfold parseKeyserverOptions
  rcases hl : parseKeyserverOptionsLoop env keyserverOptsSet ⟨none, none⟩ [] tokens with
    ⟨locals, warnings⟩
  rw [hl] at h
  obtain rfl := h
  rcases (tokens.filterMap (entryStore env 0)).getLast? with _ | _ | s <;> rfl

/-- `max-cert-size=9` then `http-proxy=p`: `http_proxy` gets `9`, and `max_cert_size` stays;
without `max-cert-size`, `http_proxy` is emplaced from `NULL`. -/
example :
    let env : KeyserverOptionsEnv :=
      ⟨fun tok _ =>
        if tok = "max-cert-size=9".toList then some (some (0, some ['9']))
        else if tok = "http-proxy=p".toList then some (some (1, some ['p'])) else none,
        fun _ => false, fun _ => false, fun _ => 9, false⟩
    parseKeyserverOptions env 100 ["max-cert-size=9".toList, "http-proxy=p".toList] =
        .ok ⟨1, ['9'], 100, []⟩ ∧
      parseKeyserverOptions env 100 ["http-proxy=p".toList] = .error .readUnstored :=
  ⟨rfl, rfl⟩

/-! ## Keyserver URIs -/

/-- The parts of `keyserver_spec.uri` the keyserver code reads.  The port is kept as the text
`set_uri` leaves; it is only compared for equality. -/
structure KeyserverUri where
  scheme : CStr
  host : CStr
  port : CStr
  deriving DecidableEq, Repr

/-- `cmp_keyserver_spec (one, two)`: `0` for a match. -/
def cmpKeyserverSpec (one two : KeyserverUri) : Nat :=
  if asciiStrcasecmpEq one.scheme two.scheme then
    if asciiStrcasecmpEq one.host two.host then
      if one.port = two.port then 0 else 1
    else 1
  else 1

lemma asciiStrcasecmpEq_self (a : CStr) : asciiStrcasecmpEq a a := by
  simp [asciiStrcasecmpEq]

lemma cmpKeyserverSpec_eq_zero {one two : KeyserverUri} :
    cmpKeyserverSpec one two = 0 ↔ asciiStrcasecmpEq one.scheme two.scheme ∧
      asciiStrcasecmpEq one.host two.host ∧ one.port = two.port := by
  unfold cmpKeyserverSpec
  split_ifs <;> simp_all

/-- `keyserver_match (spec)` over `opt.keyserver`: the first configured keyserver that matches,
or the spec itself. -/
def keyserverMatch (keyservers : List KeyserverUri) (spec : KeyserverUri) : KeyserverUri :=
  (keyservers.find? fun ks => cmpKeyserverSpec spec ks = 0).getD spec

/-- `parse_keyserver_uri (string, require_scheme)`: `setUri` is what `uri.set_uri` makes of the
text before the first space.  The options after it go to `warn_kshelper_option`, which only
logs them. -/
def parseKeyserverUri (setUri : CStr → KeyserverUri) (string : CStr) (requireScheme : Bool) :
    Option KeyserverUri :=
  let uri := setUri (string.takeWhile (· ≠ ' '))
  if requireScheme && uri.scheme.isEmpty then none
  else
    -- Assume HKP if there is no scheme
    let uri := { uri with scheme := "hkp".toList }
    if asciiStrcasecmpEq uri.scheme "x-hkp".toList then some { uri with scheme := "hkp".toList }
    else some uri

/-- `keyserver_any_configured (ctrl)`: whether `gpg_dirmngr_ks_list` succeeds. -/
def keyserverAnyConfigured (ksList : Option GpgErr) : Bool := ksList.isNone

/-- A spec `parse_keyserver_uri` returns has the scheme `"hkp"` and the host and port
`set_uri` found. -/
lemma parseKeyserverUri_some {setUri : CStr → KeyserverUri} {string : CStr}
    {requireScheme : Bool} {spec : KeyserverUri}
    (h : parseKeyserverUri setUri string requireScheme = some spec) :
    spec = { setUri (string.takeWhile (· ≠ ' ')) with scheme := "hkp".toList } := by
  unfold parseKeyserverUri at h
  dsimp only at h
  split_ifs at h with _ hx
  · exact absurd hx (by decide)
  · exact (Option.some.inj h).symm

/-- `keyserver_match` ignores the scheme written.  For every `set_uri`, every list of
configured keyserver strings and every string parsed by `parse_keyserver_uri`: the spec has
the scheme `"hkp"`, and among the keyservers parsed the same way, `keyserver_match` picks the
first with the spec's host, up to ASCII case, and its port, or the spec when none has them. -/
lemma keyserverMatch_ignoresScheme (setUri : CStr → KeyserverUri) (requireScheme : Bool)
    (configured : List CStr) (string : CStr) (spec : KeyserverUri)
    (hspec : parseKeyserverUri setUri string requireScheme = some spec) :
    spec.scheme = "hkp".toList ∧
      keyserverMatch (configured.filterMap fun s => parseKeyserverUri setUri s requireScheme)
          spec =
        ((configured.filterMap fun s => parseKeyserverUri setUri s requireScheme).find? fun ks =>
          asciiStrcasecmpEq spec.host ks.host && spec.port = ks.port).getD spec := by
  obtain rfl := parseKeyserverUri_some hspec
  refine ⟨rfl, ?_⟩
  unfold keyserverMatch
  simp only [List.find?_filterMap]
  congr 3
  funext s
  cases hs : parseKeyserverUri setUri s requireScheme with
  | none => rfl
  | some ks =>
    obtain rfl := parseKeyserverUri_some hs
    simp [cmpKeyserverSpec_eq_zero, asciiStrcasecmpEq_self]

end NeoPG
