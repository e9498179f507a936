import ClusterAdmission.Proofs.Text.Split
import ClusterAdmission.Request.LogText

/-!
# Secrets in logs

Two payloads that are the same once their secrets are blanked out (`Payload.masked`) have one text
in logs exactly if the keys that they show are the same (`Payload.logText_eq_iff`). Only updates of
storages show any, and so the text of such an update tells its keys (`Payload.logText_shows_keys`).
-/

namespace ClusterAdmission

namespace Text

/-! ## Quoted texts can be told apart -/

/-- The character that a letter behind a backslash stands for. -/
def unescaped? (c : Char) : Option Char :=
  [('"', '"'), ('\\', '\\'), ('n', '\n'), ('r', '\r'), ('t', '\t'), ('0', '\x00')].lookup c

/-- The value of a hexadecimal number. -/
def hexValue (cs : List Char) : Nat :=
  cs.foldl (fun n c => 16 * n + "0123456789abcdef".toList.idxOf c) 0

/-- How a character stands in quotes: as it is, as a letter behind a backslash, or as its number. -/
inductive OutlineForm (c : Char) : List Char → Prop
  | plain : c ≠ '\\' → c ≠ '"' → OutlineForm c [c]
  | letter {e : Char} : unescaped? e = some c → OutlineForm c ['\\', e]
  | number {ds : List Char} : '}' ∉ ds → hexValue ds = c.toNat →
      OutlineForm c ('\\' :: 'u' :: '{' :: (ds ++ ['}']))

theorem toDigits_of_lt : ∀ n < 160, '}' ∉ Nat.toDigits 16 n ∧ hexValue (Nat.toDigits 16 n) = n := by
  decide +kernel

theorem outlineForm (c : Char) : OutlineForm c (outlineChar c) := by
  unfold outlineChar
  split
  · next h =>
    refine .letter ?_
    rcases h with rfl | rfl <;> rfl
  · next hquote =>
    obtain ⟨hne, hne'⟩ := not_or.1 hquote
    split
    · next h => exact .letter (h ▸ rfl)
    · split
      · next h => exact .letter (h ▸ rfl)
      · split
        · next h => exact .letter (h ▸ rfl)
        · split
          · next h => exact .letter (h ▸ rfl)
          · split
            · next hcontrol =>
              obtain ⟨hbrace, hvalue⟩ := toDigits_of_lt c.toNat (by omega)
              exact .number hbrace hvalue
            · exact .plain hne' hne

/-- The forms of two characters start with the same text only if the characters are the same. -/
theorem OutlineForm.eq {c d : Char} {f g x y : List Char} (hf : OutlineForm c f)
    (hg : OutlineForm d g) (h : f ++ x = g ++ y) : c = d ∧ x = y := by
  cases hf with
  | plain hc _ =>
    cases hg with
    | plain _ _ => exact List.cons.inj h
    | letter _ | number _ _ => exact absurd (List.cons.inj h).1 hc
  | letter hc =>
    cases hg with
    | plain hd _ => exact absurd (List.cons.inj h).1.symm hd
    | letter hd =>
      obtain ⟨rfl, rfl⟩ := List.cons.inj (List.cons.inj h).2
      exact ⟨Option.some.inj (hc.symm.trans hd), rfl⟩
    | number _ _ =>
      obtain ⟨rfl, -⟩ := List.cons.inj (List.cons.inj h).2
      cases hc
  | @number ds hc hvalue =>
    cases hg with
    | plain hd _ => exact absurd (List.cons.inj h).1.symm hd
    | letter hd =>
      obtain ⟨rfl, -⟩ := List.cons.inj (List.cons.inj h).2
      cases hd
    | @number ds' hd hvalue' =>
      have hrest : ds ++ '}' :: x = ds' ++ '}' :: y := by simpa using h
      have hcut := congrArg (cutFirst '}') hrest
      rw [cutFirst_append hc, cutFirst_append hd] at hcut
      obtain ⟨rfl, rfl⟩ := Prod.mk.inj (Option.some.inj hcut)
      have hnat : c.toNat = d.toNat := hvalue.symm.trans hvalue'
      exact ⟨Char.toNat_inj.1 hnat, rfl⟩

/-- No character in quotes looks like the quote at the end. -/
theorem OutlineForm.ne_quote {c : Char} {f x y : List Char} (hf : OutlineForm c f) :
    f ++ x ≠ '"' :: y := by
  intro h
  cases hf with
  | plain _ hc => exact hc (List.cons.inj h).1
  | letter _ | number _ _ => exact absurd (List.cons.inj h).1 (by decide)

/-- Quoted texts can be told apart whichever characters are written as letters and numbers. -/
theorem OutlineForm.flatMap_inj {form : Char → List Char} (hform : ∀ c, OutlineForm c (form c))
    {cs ds x y : List Char} (h : cs.flatMap form ++ '"' :: x = ds.flatMap form ++ '"' :: y) :
    cs = ds ∧ x = y := by
  induction cs generalizing ds with
  | nil =>
    cases ds with
    | nil => exact ⟨rfl, (List.cons.inj h).2⟩
    | cons d ds =>
      rw [List.flatMap_cons, List.append_assoc] at h
      exact absurd h.symm (hform d).ne_quote
  | cons c cs ih =>
    cases ds with
    | nil =>
      rw [List.flatMap_cons, List.append_assoc] at h
      exact absurd h (hform c).ne_quote
    | cons d ds =>
      rw [List.flatMap_cons, List.flatMap_cons, List.append_assoc, List.append_assoc] at h
      obtain ⟨rfl, hrest⟩ := (hform c).eq (hform d) h
      obtain ⟨rfl, rfl⟩ := ih hrest
      exact ⟨rfl, rfl⟩

/-- A quoted text ends where it ends, whatever follows it. -/
theorem outlineText_append_inj {s t x y : String} (h : outlineText s ++ x = outlineText t ++ y) :
    s = t ∧ x = y := by
  have hlist := congrArg String.toList h
  simp only [outlineText, String.toList_append, String.toList_ofList, List.cons_append,
    List.append_assoc] at hlist
  obtain ⟨hst, hxy⟩ := OutlineForm.flatMap_inj outlineForm (List.cons.inj hlist).2
  exact ⟨String.toList_inj.1 hst, String.toList_inj.1 hxy⟩

end Text

/-! ## Payloads without their secrets -/

/-- Credentials with empty keys. -/
def StorageCredentials.masked (_ : StorageCredentials) : StorageCredentials := {}

/-- Credentials in which an API key and a password are empty if they are given. -/
def MonitoringCredentials.masked (c : MonitoringCredentials) : MonitoringCredentials :=
  { c with apiKey := c.apiKey.map fun _ => "", password := c.password.map fun _ => "" }

/-- A certificate authority with an empty private key. -/
def CertificateAuthority.masked (ca : CertificateAuthority) : CertificateAuthority :=
  { ca with key := "" }

/-- A new storage without the keys. -/
def NewStorage.masked (r : NewStorage) : NewStorage :=
  { r with credentials := r.credentials.masked }

/-- An update of a storage without the keys that are given. -/
def StorageUpdate.masked (u : StorageUpdate) : StorageUpdate :=
  { u with accessKey := u.accessKey.map fun _ => "", secretKey := u.secretKey.map fun _ => "" }

/-- A new monitoring instance without the secrets. -/
def NewMonitoring.masked (r : NewMonitoring) : NewMonitoring :=
  { r with credentials := r.credentials.masked }

/-- An update of a monitoring instance without the secrets. -/
def MonitoringUpdate.masked (u : MonitoringUpdate) : MonitoringUpdate :=
  { u with credentials := u.credentials.map .masked }

/-- A new split-horizon config without the private key. -/
def NewSplitHorizon.masked (r : NewSplitHorizon) : NewSplitHorizon := { r with ca := r.ca.masked }

/-- An update of a split-horizon config without the private key. -/
def SplitHorizonUpdate.masked (u : SplitHorizonUpdate) : SplitHorizonUpdate :=
  { u with ca := u.ca.map .masked }

/-- Two new storages that differ in the keys. -/
theorem NewStorage.eq_of_masked {r r' : NewStorage} (h : r.masked = r'.masked) :
    ∃ credentials, r' = { r with credentials } := by
  obtain ⟨storage, credentials⟩ := r
  obtain ⟨storage', credentials'⟩ := r'
  obtain rfl : storage = storage' := congrArg NewStorage.storage h
  exact ⟨credentials', rfl⟩

/-- Two updates that differ in the keys that they give, and give the same ones. -/
theorem StorageUpdate.eq_of_masked {u u' : StorageUpdate} (h : u.masked = u'.masked) :
    ∃ accessKey secretKey, u' = { u with accessKey, secretKey } ∧
      accessKey.isSome = u.accessKey.isSome ∧ secretKey.isSome = u.secretKey.isSome := by
  obtain ⟨space, name, bucket, region, endpointUrl, description, accessKey, secretKey,
    allowedNamespaces, verifyTls, forcePathStyle⟩ := u
  obtain ⟨space', name', bucket', region', endpointUrl', description', accessKey', secretKey',
    allowedNamespaces', verifyTls', forcePathStyle'⟩ := u'
  simp only [masked, mk.injEq] at h
  obtain ⟨rfl, rfl, rfl, rfl, rfl, rfl, haccess, hsecret, rfl, rfl, rfl⟩ := h
  refine ⟨accessKey', secretKey', rfl, ?_, ?_⟩
  · simpa using (congrArg Option.isSome haccess).symm
  · simpa using (congrArg Option.isSome hsecret).symm

/-! ## Texts -/

open Text (Outline)
open LogText (optionalText)

theorem MonitoringCredentials.outline_masked (c : MonitoringCredentials) :
    c.masked.outline = c.outline := by
  obtain ⟨apiKey, user, password⟩ := c
  cases apiKey <;> cases password <;> rfl

theorem MonitoringUpdate.outline_masked (u : MonitoringUpdate) : u.masked.outline = u.outline := by
  cases hcredentials : u.credentials with
  | none => simp [masked, outline, hcredentials]
  | some c =>
    simp [masked, outline, hcredentials, Outline.ofOption, MonitoringCredentials.outline_masked]

theorem NewMonitoring.outline_masked (r : NewMonitoring) : r.masked.outline = r.outline := by
  rw [outline, masked, MonitoringCredentials.outline_masked]
  rfl

theorem SplitHorizonUpdate.outline_masked (u : SplitHorizonUpdate) :
    u.masked.outline = u.outline := by
  cases hca : u.ca with
  | none => simp [masked, outline, hca]
  | some ca => simp [masked, outline, hca, Outline.ofOption]; rfl

/-- An optional text ends where it ends, whatever follows it. -/
theorem Text.Outline.optionalText_append_inj {a b : Option String} {x y : String}
    (hgiven : b.isSome = a.isSome)
    (h : (optionalText a).render ++ x = (optionalText b).render ++ y) : a = b ∧ x = y := by
  cases a with
  | none =>
    cases b with
    | none => exact ⟨rfl, (String.append_right_inj "None").1 h⟩
    | some t => cases hgiven
  | some s =>
    cases b with
    | none => cases hgiven
    | some t =>
      simp only [optionalText, ofOption, render, String.append_assoc, String.append_right_inj] at h
      obtain ⟨rfl, hrest⟩ := outlineText_append_inj h
      exact ⟨rfl, (String.append_right_inj ")").1 hrest⟩

/-- The text of an update of a storage shows the keys. -/
theorem StorageUpdate.render_outline_eq_iff {u v : StorageUpdate} (h : u.masked = v.masked) :
    u.outline.render = v.outline.render ↔
      u.accessKey = v.accessKey ∧ u.secretKey = v.secretKey := by
  obtain ⟨accessKey, secretKey, rfl, haccess, hsecret⟩ := eq_of_masked h
  constructor
  · intro htext
    simp only [outline, Outline.render, Outline.renderFields, String.append_assoc,
      String.append_right_inj] at htext
    obtain ⟨hsame, hrest⟩ := Outline.optionalText_append_inj haccess htext
    simp only [String.append_right_inj] at hrest
    exact ⟨hsame, (Outline.optionalText_append_inj hsecret hrest).1⟩
  · rintro ⟨rfl, rfl⟩
    rfl

/-! ## All payloads -/

/-- A payload that carries secrets. -/
inductive Payload where
  | newStorage (r : NewStorage)
  | storageUpdate (u : StorageUpdate)
  | newMonitoring (r : NewMonitoring)
  | monitoringUpdate (u : MonitoringUpdate)
  | newSplitHorizon (r : NewSplitHorizon)
  | splitHorizonUpdate (u : SplitHorizonUpdate)
  deriving DecidableEq

namespace Payload

/-- A payload without its secrets; which of them are given can still be seen. -/
def masked : Payload → Payload
  | newStorage r => newStorage r.masked
  | storageUpdate u => storageUpdate u.masked
  | newMonitoring r => newMonitoring r.masked
  | monitoringUpdate u => monitoringUpdate u.masked
  | newSplitHorizon r => newSplitHorizon r.masked
  | splitHorizonUpdate u => splitHorizonUpdate u.masked

/-- The outline of a payload. -/
def outline : Payload → Outline
  | newStorage r => r.outline
  | storageUpdate u => u.outline
  | newMonitoring r => r.outline
  | monitoringUpdate u => u.outline
  | newSplitHorizon r => r.outline
  | splitHorizonUpdate u => u.outline

/-- The text of a payload in logs. -/
def logText (p : Payload) : String := p.outline.render

/-- The secrets that the text of a payload shows. -/
def shownKeys : Payload → List (Option String)
  | storageUpdate u => [u.accessKey, u.secretKey]
  | newStorage _ | newMonitoring _ | monitoringUpdate _ | newSplitHorizon _
  | splitHorizonUpdate _ => []

theorem shownKeys_masked {p : Payload} : p.masked.shownKeys = [] ↔ p.shownKeys = [] := by
  cases p <;> simp [masked, shownKeys]

/-- A payload that shows no keys has the outline that it has without its secrets. -/
theorem outline_masked {p : Payload} (h : p.shownKeys = []) : p.masked.outline = p.outline := by
  cases p with
  | newStorage | newSplitHorizon => rfl
  | newMonitoring r => exact r.outline_masked
  | monitoringUpdate u => exact u.outline_masked
  | splitHorizonUpdate u => exact u.outline_masked
  | storageUpdate => cases h

/-- Two payloads that differ in secrets alone have one text exactly if they show the same keys. -/
theorem logText_eq_iff {p q : Payload} (h : p.masked = q.masked) :
    p.logText = q.logText ↔ p.shownKeys = q.shownKeys := by
  by_cases hp : p.shownKeys = []
  · have hq : q.shownKeys = [] := by rwa [← shownKeys_masked, ← h, shownKeys_masked]
    have htext : p.logText = q.logText := by
      rw [logText, logText, ← outline_masked hp, ← outline_masked hq, h]
    exact iff_of_true htext (hp.trans hq.symm)
  · cases p with
    | storageUpdate u =>
      cases q with
      | storageUpdate v =>
        refine (StorageUpdate.render_outline_eq_iff (storageUpdate.inj h)).trans ?_
        simp [shownKeys]
      | _ => cases h
    | _ => exact absurd rfl hp

namespace Sample

/-- A new storage under a secret key. -/
def newStorage (secretKey : String) : Payload :=
  .newStorage
    { storage :=
        { metadata := { name := some "s3", space := some "ns" }
          spec := { storageType := .s3, bucket := "backups", region := "eu",
                    credentialsSecretName := "s3" } }
      credentials := { accessKey := "AKIA123", secretKey } }

/-- An update that sets the keys of a storage. -/
def rotation (secretKey : String) : Payload :=
  .storageUpdate
    { space := "ns", name := "s3", accessKey := some "AKIA123", secretKey := some secretKey }

end Sample

theorem logText_eq_of_sample :
    (Sample.newStorage "hunter2").masked = (Sample.newStorage "letmein").masked ∧
      (Sample.newStorage "hunter2").logText = (Sample.newStorage "letmein").logText :=
  ⟨rfl, (logText_eq_iff rfl).2 rfl⟩

/-- Two updates of a storage that differ in the secret key alone have different texts, and the text
has the key in it. -/
theorem logText_shows_keys :
    (Sample.rotation "hunter2").masked = (Sample.rotation "letmein").masked ∧
      (Sample.rotation "hunter2").logText ≠ (Sample.rotation "letmein").logText ∧
      (Sample.rotation "hunter2").logText =
        "UpdateBackupStorageRequest \x7b namespace: \"ns\", name: \"s3\", bucket: None, " ++
          "region: None, endpoint_url: None, description: None, access_key: Some(\"AKIA123\"), " ++
          "secret_key: Some(\"hunter2\"), allowed_namespaces: None, verify_tls: None, " ++
          "force_path_style: None \x7d" := by
  decide +kernel

end Payload

end ClusterAdmission
