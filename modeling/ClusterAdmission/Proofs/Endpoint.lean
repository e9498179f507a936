import ClusterAdmission.Endpoint
import ClusterAdmission.Proofs.Check.Program
import ClusterAdmission.Proofs.Names
import ClusterAdmission.Proofs.Text.Blank
import ClusterAdmission.Rules.Storage

/-!
# Addresses and endpoints

The grammar of addresses with the endpoint that each of them leads to, and that this is the endpoint
that is computed (`Endpoint.HasAuthority.ofAddress?_eq_some`). An address is a scheme, an authority
and a rest; what counts of the authority is the part behind the last `@`, which is a host with or
without a port.

A storage is accepted by the shape of its address, which asks less: it looks at the first character
of the authority only. `accepted_storage_endpoint` says which accepted storages are reached at a
host and a port, and `accepted_storages_unreachable` that not all of them are.
-/

namespace ClusterAdmission

namespace Endpoint

/-- A scheme and its default port. -/
inductive Scheme : List Char → Nat → Prop
  | https : Scheme "https://".toList 443
  | http : Scheme "http://".toList 80

/-- An address has an authority, which a slash, a question mark or a number sign ends, and a scheme
with a default port. -/
def HasAuthority (address : List Char) (default : Nat) (authority : List Char) : Prop :=
  ∃ scheme rest, Scheme scheme default ∧ address = scheme ++ (authority ++ rest) ∧
    (∀ c ∈ authority, endsAuthority c = false) ∧ ∀ c ∈ rest.head?, endsAuthority c = true

/-- What follows the last `@` of an authority, or all of it. -/
def Target (authority target : List Char) : Prop :=
  '@' ∉ target ∧ (authority = target ∨ ∃ user, authority = user ++ '@' :: target)

/-- A host, and the text of a port if there is one. The host may stand in brackets, and then what
follows them is no port unless it starts with a colon; without brackets a host has colons only in
front of the one before the port. -/
inductive HostPort : List Char → List Char → Option (List Char) → Prop
  | bracketed {host after : List Char} : ']' ∉ host → after.head? ≠ some ':' →
    HostPort ('[' :: (host ++ ']' :: after)) host none
  | bracketedPort {host port : List Char} : ']' ∉ host →
    HostPort ('[' :: (host ++ ']' :: ':' :: port)) host (some port)
  | plain {host : List Char} : host.head? ≠ some '[' → ':' ∉ host → HostPort host host none
  | plainPort {host port : List Char} : host.head? ≠ some '[' → ':' ∉ port →
    HostPort (host ++ ':' :: port) host (some port)

/-- The port that a text stands for: decimal digits, with or without a plus sign in front, of at
most 65535. Without a text it is the default. -/
inductive PortOf (default : Nat) : Option (List Char) → Nat → Prop
  | default : PortOf default none default
  | digits {ds : List Char} {port : Nat} : Text.natural? ds = some port → port ≤ 65535 →
    PortOf default (some ds) port
  | plus {ds : List Char} {port : Nat} : Text.natural? ds = some port → port ≤ 65535 →
    PortOf default (some ('+' :: ds)) port

/-- An authority leads to a host, which is not empty, and a port. -/
inductive Leads (default : Nat) (authority : List Char) : Endpoint → Prop
  | mk {target host : List Char} {text : Option (List Char)} {port : Nat} :
    Target authority target → HostPort target host text → host ≠ [] → PortOf default text port →
    Leads default authority ⟨.ofList host, port⟩

variable {address cs rest target host ds : List Char} {default port : Nat} {e : Endpoint}

theorem scheme?_eq_some : scheme? address = some (default, rest) ↔
    ∃ scheme, Scheme scheme default ∧ address = scheme ++ rest := by
  unfold scheme?
  constructor
  · intro h
    split at h
    · next hhttps =>
      cases h
      exact ⟨_, .https, Text.dropStart?_eq_some.1 hhttps⟩
    · obtain ⟨_, hhttp, heq⟩ := Option.map_eq_some_iff.1 h
      cases heq
      exact ⟨_, .http, Text.dropStart?_eq_some.1 hhttp⟩
  · rintro ⟨_, _ | _, rfl⟩
    · rw [Text.dropStart?_eq_some.2 rfl]
    · rw [Text.dropStart?_eq_some.2 rfl]
      -- The longer scheme does not match: it has a letter where this one has its colon.
      rfl

theorem hasAuthority_iff {authority : List Char} : HasAuthority address default authority ↔
    ∃ rest, scheme? address = some (default, rest) ∧
      authority = rest.takeWhile fun c => !endsAuthority c := by
  constructor
  · rintro ⟨scheme, rest, hscheme, rfl, hinside, hstop⟩
    refine ⟨authority ++ rest, scheme?_eq_some.2 ⟨scheme, hscheme, rfl⟩, ?_⟩
    rw [List.takeWhile_append_of_pos (by simpa using hinside)]
    cases rest with
    | nil => simp
    | cons c cs => simp [hstop c rfl]
  · rintro ⟨rest, hrest, rfl⟩
    obtain ⟨scheme, hscheme, rfl⟩ := scheme?_eq_some.1 hrest
    refine ⟨scheme, rest.dropWhile fun c => !endsAuthority c, hscheme, ?_, fun c hc => ?_,
      fun c hc => ?_⟩
    · rw [List.takeWhile_append_dropWhile]
    · simpa using List.all_eq_true.1 List.all_takeWhile c hc
    · have hhead := List.head?_dropWhile_not (fun c => !endsAuthority c) rest
      rw [hc] at hhead
      simpa using hhead

theorem target_iff {whole : List Char} (hwhole : whole = cs.takeWhile fun c => !endsAuthority c) :
    Target whole target ↔ target = authority cs := by
  unfold Target
  simp only [authority, ← hwhole]
  cases hcut : Text.cutLast '@' whole with
  | none =>
    have hnot := Text.cutLast_eq_none.1 hcut
    constructor
    · rintro ⟨-, h | ⟨user, h⟩⟩
      · exact h.symm
      · exact absurd (h ▸ List.mem_append_right user List.mem_cons_self) hnot
    · rintro rfl
      exact ⟨hnot, .inl rfl⟩
  | some cut =>
    obtain ⟨user, host⟩ := cut
    obtain ⟨happend, hhost⟩ := Text.cutLast_eq_some.1 hcut
    constructor
    · rintro ⟨htarget, h | ⟨user', h⟩⟩
      · rw [← h, happend] at htarget
        exact absurd (List.mem_append_right user List.mem_cons_self) htarget
      · rw [Text.cutLast_eq_some.2 ⟨h, htarget⟩] at hcut
        cases hcut
        rfl
    · rintro rfl
      exact ⟨hhost, .inr ⟨user, happend⟩⟩

theorem hostPort?_of_head (h : cs.head? ≠ some '[') :
    hostPort? cs = match Text.cutLast ':' cs with
      | some (host, port) => some (host, some port)
      | none => some (cs, none) := by
  unfold hostPort?
  split
  · exact absurd rfl h
  · rfl

theorem hostPort?_eq_some {text : Option (List Char)} :
    hostPort? cs = some (host, text) ↔ HostPort cs host text := by
  constructor
  · intro h
    by_cases hbracket : cs.head? = some '['
    · obtain ⟨rest, rfl⟩ := List.head?_eq_some_iff.1 hbracket
      obtain ⟨⟨inside, after⟩, hcut, heq⟩ := Option.map_eq_some_iff.1 h
      cases heq
      obtain ⟨rfl, hinside⟩ := Text.cutFirst_eq_some.1 hcut
      cases hport : Text.dropStart? [':'] after with
      | none => exact .bracketed hinside (Text.dropStart?_singleton_eq_none.1 hport)
      | some port =>
        obtain rfl := Text.dropStart?_eq_some.1 hport
        exact .bracketedPort hinside
    · rw [hostPort?_of_head hbracket] at h
      cases hcut : Text.cutLast ':' cs with
      | none =>
        rw [hcut] at h
        cases h
        exact .plain hbracket (Text.cutLast_eq_none.1 hcut)
      | some cut =>
        rw [hcut] at h
        cases h
        obtain ⟨rfl, hport⟩ := Text.cutLast_eq_some.1 hcut
        refine .plainPort (fun hhost => hbracket ?_) hport
        rw [List.head?_append, hhost]
        rfl
  · intro h
    cases h with
    | bracketed hinside hafter =>
      simp [hostPort?, Text.cutFirst_append hinside, Text.dropStart?_singleton_eq_none.2 hafter]
    | bracketedPort hinside =>
      simp [hostPort?, Text.cutFirst_append hinside, Text.dropStart?]
    | plain hbracket hcolon =>
      rw [hostPort?_of_head hbracket, Text.cutLast_eq_none.2 hcolon]
    | plainPort hbracket hcolon =>
      rw [hostPort?_of_head, Text.cutLast_append _ hcolon]
      cases host with
      | nil => simp
      | cons c cs => exact hbracket

theorem portOf_some_iff {text : List Char} :
    PortOf default (some text) port ↔ Text.naturalUpTo? 65535 text = some port := by
  rw [Text.naturalUpTo?_eq_some]
  constructor
  · rintro (_ | ⟨hvalue, hle⟩ | ⟨hvalue, hle⟩)
    · exact ⟨.inl hvalue, hle⟩
    · exact ⟨.inr ⟨_, rfl, hvalue⟩, hle⟩
  · rintro ⟨hvalue | ⟨ds, rfl, hvalue⟩, hle⟩
    · exact .digits hvalue hle
    · exact .plus hvalue hle

/-- The endpoint that is computed of an address is the one that its authority leads to. -/
theorem HasAuthority.ofAddress?_eq_some {whole : List Char}
    (h : HasAuthority address default whole) :
    ofAddress? address = some e ↔ Leads default whole e := by
  obtain ⟨rest, hscheme, hwhole⟩ := hasAuthority_iff.1 h
  simp only [ofAddress?, hscheme, bind, pure, Option.bind_some, Option.bind_eq_some_iff,
    Prod.exists]
  constructor
  · rintro ⟨host, text, hhost, h⟩
    split at h
    · cases h
    · next hempty =>
      have hleads {port : Nat} (hport : PortOf default text port) :
          Leads default whole ⟨.ofList host, port⟩ :=
        .mk ((target_iff hwhole).2 rfl) (hostPort?_eq_some.1 hhost) (by simpa using hempty) hport
      cases text with
      | none =>
        cases h
        exact hleads .default
      | some ds =>
        obtain ⟨port, hport, heq⟩ := Option.bind_eq_some_iff.1 h
        cases heq
        exact hleads (portOf_some_iff.2 hport)
  · rintro @⟨target, host, text, port, htarget, hhost, hne, hport⟩
    obtain rfl := (target_iff hwhole).1 htarget
    refine ⟨host, text, hostPort?_eq_some.2 hhost, ?_⟩
    rw [if_neg (by simpa using hne)]
    cases text with
    | none =>
      cases hport
      rfl
    | some ds => exact Option.bind_eq_some_iff.2 ⟨port, portOf_some_iff.1 hport, rfl⟩

/-! ## Accepted storages -/

theorem ofStorage_of_url {s : BackupStorageSpec} {c : StorageCredentials}
    (h : Names.isUrl s.endpointUrl) :
    ofStorage s c = match ofAddress? s.endpointUrl.toList with
      | some e => .ok e
      | none => .error (.invalidAddress s.endpointUrl) := by
  have hne : s.endpointUrl.toList.isEmpty = false := by
    obtain ⟨scheme, rest, hscheme, hurl, -⟩ := Names.isUrl_iff.1 h
    rw [hurl]
    rcases hscheme with rfl | rfl <;> rfl
  rw [ofStorage, Text.trim_eq_self (Names.isBlank_of_isUrl h), hne, String.ofList_toList]
  rfl

theorem ofStorage_of_empty {s : BackupStorageSpec} {c : StorageCredentials}
    (hempty : s.endpointUrl = "") (hregion : s.storageType = .s3 → s.region ≠ "")
    (hkey : c.accessKey ≠ "") : ∃ host, ofStorage s c = .ok ⟨host, 443⟩ := by
  have htrim : Text.trim s.endpointUrl.toList = [] := by rw [hempty]; rfl
  rw [ofStorage, htrim]
  cases htype : s.storageType with
  | s3 => exact ⟨_, if_neg (hregion htype)⟩
  | azure => exact ⟨_, if_neg hkey⟩

theorem exists_hasAuthority {url : String} (h : Names.isUrl url) :
    ∃ default whole, HasAuthority url.toList default whole := by
  obtain ⟨scheme, rest, hscheme, hurl, -⟩ := Names.isUrl_iff.1 h
  have hdefault : ∃ default, Scheme scheme default := by
    rcases hscheme with rfl | rfl
    · exact ⟨443, .https⟩
    · exact ⟨80, .http⟩
  obtain ⟨default, hscheme⟩ := hdefault
  exact ⟨default, _, hasAuthority_iff.2 ⟨rest, scheme?_eq_some.2 ⟨scheme, hscheme, hurl⟩, rfl⟩⟩

end Endpoint

theorem Rules.storageFields_eq_ok {s : BackupStorage} (h : storageFields s = .ok ()) :
    (s.spec.storageType = .s3 → Text.trimmed s.spec.region ≠ "") ∧
      (s.spec.endpointUrl ≠ "" → Names.isUrl s.spec.endpointUrl) := by
  simp only [storageFields, bind_eq_ok, require_eq_ok] at h
  obtain ⟨-, -, hregion, hurl⟩ := h
  refine ⟨fun htype => by simpa [htype] using hregion, fun hne => ?_⟩
  rw [if_pos hne] at hurl
  exact require_eq_ok.1 hurl

/-- What a storage whose fields are accepted is reached at. Without an address of its own it has
the endpoint of the provider. With one it has the endpoint that the authority of the address leads
to, and where the authority leads nowhere, the address is reported. -/
theorem accepted_storage_endpoint {s : BackupStorage} {c : StorageCredentials}
    (hs : Rules.storageFields s = .ok ()) (hc : c.isComplete) :
    (s.spec.endpointUrl = "" → ∃ host, Endpoint.ofStorage s.spec c = .ok ⟨host, 443⟩) ∧
    (s.spec.endpointUrl ≠ "" → ∃ default authority,
      Endpoint.HasAuthority s.spec.endpointUrl.toList default authority ∧
      (∀ e, Endpoint.ofStorage s.spec c = .ok e ↔ Endpoint.Leads default authority e) ∧
      ((∀ e, ¬ Endpoint.Leads default authority e) →
        Endpoint.ofStorage s.spec c = .error (.invalidAddress s.spec.endpointUrl))) := by
  obtain ⟨hregion, hurl⟩ := Rules.storageFields_eq_ok hs
  constructor
  · intro hempty
    refine Endpoint.ofStorage_of_empty hempty (fun htype hblank => hregion htype ?_) ?_
    · rw [hblank]
      rfl
    · intro hkey
      simp [StorageCredentials.isComplete, hkey] at hc
  · intro hne
    obtain ⟨default, whole, hauthority⟩ := Endpoint.exists_hasAuthority (hurl hne)
    refine ⟨default, whole, hauthority, fun e => ?_, fun hnone => ?_⟩
    · rw [← hauthority.ofAddress?_eq_some, Endpoint.ofStorage_of_url (hurl hne)]
      cases Endpoint.ofAddress? s.spec.endpointUrl.toList <;> simp
    · have haddress : Endpoint.ofAddress? s.spec.endpointUrl.toList = none :=
        Option.eq_none_iff_forall_ne_some.2 fun e he =>
          hnone e (hauthority.ofAddress?_eq_some.1 he)
      rw [Endpoint.ofStorage_of_url (hurl hne), haddress]

namespace Sample

/-- A storage in the region `eu` with an address of its own. -/
def storageAt (address : String) : BackupStorage where
  metadata := { name := some "s3", space := some "ns" }
  spec := { storageType := .s3, bucket := "backups", region := "eu", endpointUrl := address
            credentialsSecretName := "s3" }

/-- Credentials with both keys. -/
def bothKeys : StorageCredentials where
  accessKey := "user"
  secretKey := "key"

end Sample

/-- A user in front of the host, and a host in brackets. -/
theorem accepted_storage_endpoint_of_sample :
    ∃ default authority,
      Endpoint.HasAuthority "http://u:p@[::1]:9000/x@y".toList default authority ∧
      Endpoint.Leads default authority ⟨"::1", 9000⟩ := by
  have hs : Rules.storageFields (Sample.storageAt "http://u:p@[::1]:9000/x@y") = .ok () := by
    decide +kernel
  have hc : Sample.bothKeys.isComplete := by decide
  obtain ⟨default, authority, hauthority, hleads, -⟩ :=
    (accepted_storage_endpoint hs hc).2 (by decide)
  exact ⟨default, authority, hauthority, (hleads _).1 (by decide +kernel)⟩

/-- A port that is no number, a user without a host, and a bracket that is not closed. -/
theorem accepted_storages_unreachable :
    Sample.bothKeys.isComplete ∧
    ∀ address ∈ ["http://host:port", "http://user@", "http://[::1"],
      Rules.storageFields (Sample.storageAt address) = .ok () ∧
      Endpoint.ofStorage (Sample.storageAt address).spec Sample.bothKeys =
        .error (.invalidAddress address) := by
  decide +kernel

end ClusterAdmission
