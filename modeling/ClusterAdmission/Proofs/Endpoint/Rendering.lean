import ClusterAdmission.Proofs.Endpoint
import ClusterAdmission.Proofs.Text.Blank
import Mathlib.Data.Bool.AllAny

/-!
# Written addresses

An address is written from a scheme, a user, a host, a port and a rest (`Endpoint.Address.text`).
The endpoint of a storage at such an address has the host and the port that were written, whatever
delimiters the user and the rest contain (`Endpoint.ofStorage_text`): a user ends at the last `@` of
the authority, and the authority ends before the rest begins.
-/

namespace ClusterAdmission

namespace Endpoint

/-- The characters that a rest starts with, and that nothing in front of it contains. -/
def delimiters : List Char := ['/', '?', '#']

/-- The host of an address: a name, or a literal that stands in brackets. -/
inductive Host where
  | name (text : List Char)
  | literal (text : List Char)

namespace Host

/-- The host itself. -/
def text : Host → List Char
  | name t | literal t => t

/-- The host as it stands in an address. -/
def written : Host → List Char
  | name t => t
  | literal t => '[' :: (t ++ [']'])

/-- The characters that a host of a kind must not contain. -/
def reserved : Host → List Char
  | name _ => '@' :: ':' :: delimiters
  | literal _ => '@' :: ']' :: delimiters

/-- A host is not empty, has no blanks and no reserved characters, and a name does not look like a
literal. -/
structure WellFormed (h : Host) : Prop where
  ne_nil : h.text ≠ []
  chars : ∀ c ∈ h.text, Text.isBlank c = false ∧ c ∉ h.reserved
  start : ∀ t, h = name t → t.head? ≠ some '['

end Host

/-- A port in decimal, with zeros in front of it up to a width. -/
structure PortNumber where
  number : UInt16
  width : Nat

/-- The parts of an address. -/
structure Address where
  scheme : List Char
  defaultPort : Nat
  user : Option (List Char)
  host : Host
  port : Option PortNumber
  rest : List Char
  isScheme : Scheme scheme defaultPort
  user_inside : ∀ u ∈ user, ∀ c ∈ u, c ∉ delimiters
  host_wellFormed : host.WellFormed
  rest_start : ∀ c ∈ rest.head?, c ∈ delimiters

theorem Scheme.head?_eq {scheme : List Char} {default : Nat} (h : Scheme scheme default) :
    scheme.head? = some 'h' := by
  cases h <;> rfl

namespace Address

variable (a : Address)

/-- The user, with the `@` behind it. -/
def userPart : List Char := a.user.elim [] (· ++ ['@'])

/-- The port, with the colon in front of it. -/
def portPart : List Char := a.port.elim [] fun p => ':' :: Text.padded p.width p.number.toNat

/-- The host with the port, which is what an authority leads to. -/
def targetPart : List Char := a.host.written ++ a.portPart

/-- The address up to its rest. -/
def origin : List Char := a.scheme ++ (a.userPart ++ a.targetPart)

/-- The address as it is written. -/
def text : List Char := a.origin ++ a.rest

/-- The port that is meant: without one, the default of the scheme. -/
def portNumber : Nat := a.port.elim a.defaultPort fun p => p.number.toNat

theorem endsAuthority_iff {c : Char} : endsAuthority c = true ↔ c ∈ delimiters := by
  simp [endsAuthority, delimiters, or_assoc]

variable {a} {c : Char}

theorem mem_portPart (h : c ∈ a.portPart) : c = ':' ∨ c.isDigit := by
  unfold portPart at h
  cases hport : a.port with
  | none => simp [hport] at h
  | some p =>
    simp only [hport, Option.elim_some, List.mem_cons] at h
    exact h.imp_right (List.all_eq_true.1 (Text.all_isDigit_padded _ _) c)

theorem mem_written (h : c ∈ a.host.written) :
    c = '[' ∨ c = ']' ∨ Text.isBlank c = false ∧ c ∉ a.host.reserved := by
  have hchars := a.host_wellFormed.chars c
  cases hhost : a.host with
  | name t =>
    rw [hhost] at h hchars
    exact .inr (.inr (hchars h))
  | literal t =>
    rw [hhost] at h hchars
    simp only [Host.written, List.mem_cons, List.mem_append, List.not_mem_nil, or_false] at h
    rcases h with h | h | h
    · exact .inl h
    · exact .inr (.inr (hchars h))
    · exact .inr (.inl h)

/-- What the host and the port are written with is neither blank, nor an `@`, nor a delimiter. -/
theorem mem_targetPart (h : c ∈ a.targetPart) :
    Text.isBlank c = false ∧ c ∉ '@' :: delimiters := by
  rcases List.mem_append.1 h with h | h
  · rcases mem_written h with rfl | rfl | ⟨hblank, hreserved⟩
    · decide
    · decide
    · refine ⟨hblank, fun hc => hreserved ?_⟩
      cases a.host <;> simp only [Host.reserved, List.mem_cons] at hc ⊢ <;> tauto
  · rcases mem_portPart h with rfl | hdigit
    · decide
    · refine ⟨Names.isBlank_of_isLetterOrDigit (by simp [Names.isLetterOrDigit, hdigit]), ?_⟩
      intro hc
      have hnone : ('@' :: delimiters).all fun d => !d.isDigit := by decide
      simpa [hdigit] using List.all_eq_true.1 hnone c hc

theorem targetPart_ne_nil : a.targetPart ≠ [] := by
  refine List.append_ne_nil_of_left_ne_nil ?_ _
  have hne := a.host_wellFormed.ne_nil
  cases hhost : a.host with
  | name t => rwa [hhost] at hne
  | literal t => exact List.cons_ne_nil _ _

/-! ## Reading an address -/

theorem target : Target (a.userPart ++ a.targetPart)
    a.targetPart := by
  refine ⟨fun h => (mem_targetPart h).2 List.mem_cons_self, ?_⟩
  unfold userPart
  cases a.user with
  | none => exact .inl rfl
  | some user => exact .inr ⟨user, by simp⟩

theorem hostPort : HostPort a.targetPart a.host.text
    (a.port.map fun p => Text.padded p.width p.number.toNat) := by
  have hwf := a.host_wellFormed
  unfold targetPart portPart
  cases hhost : a.host with
  | name t =>
    rw [hhost] at hwf
    have hcolon : ':' ∉ t := fun h => (hwf.chars _ h).2 (by simp [Host.reserved])
    cases a.port with
    | none => simpa [Host.written, Host.text] using HostPort.plain (hwf.start t rfl) hcolon
    | some p =>
      refine .plainPort (hwf.start t rfl) fun h => ?_
      have hdigit := List.all_eq_true.1 (Text.all_isDigit_padded _ _) _ h
      cases hdigit
  | literal t =>
    rw [hhost] at hwf
    have hbracket : ']' ∉ t := fun h => (hwf.chars _ h).2 (by simp [Host.reserved])
    cases a.port with
    | none =>
      have hport : HostPort ('[' :: (t ++ ']' :: [])) t none := .bracketed hbracket (by simp)
      simpa [Host.written, Host.text] using hport
    | some p => simpa [Host.written, Host.text] using HostPort.bracketedPort hbracket

theorem portOf : PortOf a.defaultPort (a.port.map fun p => Text.padded p.width p.number.toNat)
    a.portNumber := by
  unfold portNumber
  cases a.port with
  | none => exact .default
  | some p =>
    exact .digits (Text.natural?_padded _ _) (Nat.le_of_lt_succ p.number.toNat_lt)

theorem leads : Leads a.defaultPort (a.userPart ++ a.targetPart)
    ⟨.ofList a.host.text, a.portNumber⟩ :=
  .mk target hostPort a.host_wellFormed.ne_nil portOf

theorem hasAuthority {rest : List Char} (hrest : ∀ c ∈ rest.head?, c ∈ delimiters) :
    HasAuthority (a.origin ++ rest) a.defaultPort
      (a.userPart ++ a.targetPart) := by
  refine ⟨a.scheme, rest, a.isScheme, List.append_assoc .., fun c hc => ?_,
    fun c hc => endsAuthority_iff.2 (hrest c hc)⟩
  rw [← Bool.not_eq_true, endsAuthority_iff]
  rcases List.mem_append.1 hc with hc | hc
  · have huser := a.user_inside
    unfold userPart at hc
    cases hu : a.user with
    | none => simp [hu] at hc
    | some u =>
      rw [hu] at hc huser
      rcases List.mem_append.1 hc with hc | hc
      · exact huser u rfl c hc
      · rw [List.mem_singleton.1 hc]
        decide
  · exact fun h => (mem_targetPart hc).2 (List.mem_cons_of_mem _ h)

theorem head?_origin : a.origin.head? = some 'h' := by
  rw [origin, List.head?_append, a.isScheme.head?_eq]
  rfl

theorem getLast?_origin : ∃ c, a.origin.getLast? = some c ∧ Text.isBlank c = false := by
  refine ⟨a.targetPart.getLast targetPart_ne_nil, ?_,
    (mem_targetPart (List.getLast_mem targetPart_ne_nil)).1⟩
  rw [origin, List.getLast?_append, List.getLast?_append,
    List.getLast?_eq_some_getLast targetPart_ne_nil]
  rfl

/-- Blanks around an address are trimmed, and with them blanks at the end of its rest. -/
theorem trim_text {front back : List Char} (hfront : ∀ c ∈ front, Text.isBlank c)
    (hback : ∀ c ∈ back, Text.isBlank c) :
    ∃ rest, (∀ c ∈ rest.head?, c ∈ delimiters) ∧ Text.trim (front ++ a.text ++ back) =
      a.origin ++ rest := by
  refine ⟨Text.trimEnd (a.rest ++ back), fun c hc => ?_, ?_⟩
  · cases hrest : a.rest with
    | nil =>
      rw [hrest, List.nil_append, Text.trimEnd_of_blank hback] at hc
      cases hc
    | cons d ds =>
      have hd : d ∈ delimiters := a.rest_start d (by rw [hrest]; rfl)
      have hvisible : Text.isBlank d = false := by
        have hall : delimiters.all fun d => !Text.isBlank d := by decide
        simpa using List.all_eq_true.1 hall d hd
      rw [hrest, List.cons_append, Text.trimEnd_cons hvisible] at hc
      obtain rfl := Option.some.inj hc
      exact hd
  · rw [← Text.trim_frame hfront ⟨'h', head?_origin, by decide⟩ getLast?_origin, text]
    simp only [List.append_assoc]

/-- The endpoint of a storage at a written address has the host and the port of that address. -/
theorem ofStorage_text (a : Address) {front back : List Char}
    (hfront : ∀ c ∈ front, Text.isBlank c) (hback : ∀ c ∈ back, Text.isBlank c)
    {s : BackupStorageSpec} (hs : s.endpointUrl = .ofList (front ++ a.text ++ back))
    (c : StorageCredentials) : ofStorage s c = .ok ⟨.ofList a.host.text, a.portNumber⟩ := by
  obtain ⟨rest, hrest, htrim⟩ := trim_text (a := a) hfront hback
  have haddress := (hasAuthority hrest).ofAddress?_eq_some.2 a.leads
  have hne : (Text.trim s.endpointUrl.toList).isEmpty = false := by
    rw [hs, String.toList_ofList, htrim]
    have hstart : a.origin ≠ [] := fun h => by simpa [h] using a.head?_origin
    simp [hstart]
  rw [ofStorage, hne]
  rw [hs, String.toList_ofList, htrim, haddress]
  rfl

end Address

end Endpoint

namespace Sample

open Endpoint (Address)

/-- An address with an `@`, a colon and brackets in its user and in its rest, around a literal. -/
def literalAddress : Address where
  scheme := "https://".toList
  defaultPort := 443
  user := some "a@b:[c]".toList
  host := .literal "::1".toList
  port := some ⟨8080, 5⟩
  rest := "?x@y:1]/z".toList
  isScheme := .https
  user_inside := by
    rintro _ ⟨⟩
    exact List.all_iff_forall_prop.1 (by decide)
  host_wellFormed := ⟨by decide, List.all_iff_forall_prop.1 (by decide), nofun⟩
  rest_start := by
    rintro _ ⟨⟩
    decide

end Sample

theorem Endpoint.Address.ofStorage_text_of_sample :
    let s : BackupStorageSpec :=
      (Sample.storageAt "\u00a0https://a@b:[c]@[::1]:08080?x@y:1]/z \r\n").spec
    s.endpointUrl = .ofList (['\u00a0'] ++ Sample.literalAddress.text ++ [' ', '\r', '\n']) ∧
      Endpoint.ofStorage s {} = .ok ⟨"::1", 8080⟩ := by
  intro s
  have hs : s.endpointUrl =
      .ofList (['\u00a0'] ++ Sample.literalAddress.text ++ [' ', '\r', '\n']) := by
    decide +kernel
  exact ⟨hs, Sample.literalAddress.ofStorage_text (List.all_eq_true.1 (by decide))
    (List.all_eq_true.1 (by decide)) hs {}⟩

end ClusterAdmission
