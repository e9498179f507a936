import ClusterAdmission.Proofs.Encoding.Base64
import ClusterAdmission.Proofs.Json.Record
import ClusterAdmission.Proofs.SortedMap
import ClusterAdmission.Secret
import Mathlib.Tactic.MkIffOfInductiveProp

/-!
# What secrets hold

A secret is read as the texts that were put into it: a new one as the texts that it is created with
(`Secret.holds_new`), and a patched one as the texts of the patch laid over those that it held
(`Secret.Holds.patch`). The second needs a secret as the API keeps it (`Secret.IsKept`), which is
what the API makes of both (`Secret.isKept_sealTexts`). Whether a patched secret can be read at all
depends on the keys of the patch, not on its texts (`Secret.isSome_ofJson?_patch`).
-/

namespace ClusterAdmission

namespace Secret

/-- The members of the encoded data; there are none where the field is left out or `null`. -/
def members? (j : Json) : Option Json.Members :=
  match j.get? "data" with
  | none | some .null => some []
  | some (.obj d) => some d
  | some _ => none

/-- A secret as the API keeps it: all texts have been moved, and the data are in key order. -/
structure IsKept (j : Json) : Prop where
  moved : j.get? "stringData" = none
  sorted {d : Json.Members} : members? j = some d → Entries.Sorted d

/-- A client that reads the secret finds these texts, whatever name it knows the secret by. -/
def Holds (j : Json) (data : SecretData) : Prop :=
  ∃ bytes, ofJson? j = some bytes ∧ ∀ name, texts name bytes = .ok data

/-! ## Texts -/

/-- The text of a value of the encoded data. -/
def text? (j : Json) : Option String := (bytes? j).bind Base64.text?

@[simp] theorem text?_encodedText (s : String) : text? (encodedText (.str s)) = some s := by
  have hencoded : encodedText (.str s) = .str (Base64.ofText s) := rfl
  rw [text?, hencoded, bytes?, Json.string?_str, Option.bind_some, Base64.decode?_ofText,
    Option.bind_some, Base64.text?_toUTF8]

theorem toOption_mapM_entryText (name : String) (es : List (String × List UInt8)) :
    (es.mapM (entryText name)).toOption = SortedMap.readValues Base64.text? es := by
  induction es with
  | nil => rfl
  | cons e rest ih =>
    rw [SortedMap.readValues, List.mapM_cons, List.mapM_cons, ← SortedMap.readValues, ← ih]
    cases htext : Base64.text? e.2 with
    | none => simp [entryText, htext, Except.toOption, bind, Except.bind]
    | some text =>
      cases rest.mapM (entryText name) <;>
        simp [entryText, htext, Except.toOption, bind, Except.bind, pure, Except.pure]

/-- The texts of a secret are those of its bytes, key by key. -/
theorem texts_eq_ok {name : String} {bytes : SortedMap String (List UInt8)} {data : SecretData} :
    texts name bytes = .ok data ↔
      ∀ k, (bytes.get? k).map Base64.text? = (data.get? k).map some := by
  have hread : texts name bytes = .ok data ↔
      (SortedMap.readValues Base64.text? bytes.entries).map SortedMap.ofList = some data := by
    rw [texts, ← toOption_mapM_entryText name]
    cases bytes.entries.mapM (entryText name) <;> simp [Except.map, Except.toOption]
  rw [hread, SortedMap.ofList_readValues_eq_some bytes.sorted]
  rfl

/-! ## Fields -/

/-- The fields of a secret other than its contents can be read. -/
@[mk_iff]
structure Readable (j : Json) : Prop where
  apiVersion : isAbsentOr apiVersion (j.get? "apiVersion")
  kind : isAbsentOr kind (j.get? "kind")
  metadata : (Json.Record.readOptional Metadata.ofJson? (j.get? "metadata")).isSome
  immutable : (Json.Record.readOptional Json.bool? (j.get? "immutable")).isSome
  type : (Json.Record.readOptional Json.string? (j.get? "type")).isSome

theorem Readable.congr {j j' : Json} (h : Readable j)
    (hfields : ∀ key, key ≠ "data" → key ≠ "stringData" → j'.get? key = j.get? key) :
    Readable j' := by
  rw [readable_iff] at h ⊢
  rwa [hfields _ (by decide) (by decide), hfields _ (by decide) (by decide),
    hfields _ (by decide) (by decide), hfields _ (by decide) (by decide),
    hfields _ (by decide) (by decide)]

theorem readOptional_data (j : Json) :
    (Json.Record.readOptional (Json.map? bytes?) (j.get? "data")).map (·.getD .empty) =
      (members? j).bind fun d => Json.map? bytes? (.obj d) := by
  unfold members?
  cases j.get? "data" with
  | none => rfl
  | some field =>
    cases field with
    | obj d => simp [Json.Record.readOptional, Json.option?]
    | _ => rfl

/-- A secret without texts to be moved is read by its fields and the members of its data. -/
theorem ofJson?_eq_some {ms : Json.Members} {bytes : SortedMap String (List UInt8)}
    (hmoved : (Json.obj ms).get? "stringData" = none) :
    ofJson? (.obj ms) = some bytes ↔ Readable (.obj ms) ∧
      ∃ d, members? (.obj ms) = some d ∧ Json.map? bytes? (.obj d) = some bytes := by
  have hget (key : String) : (⟨ms⟩ : Json.Record).get? key = (Json.obj ms).get? key := rfl
  rw [← Option.bind_eq_some_iff, ← readOptional_data, readable_iff]
  simp only [ofJson?, Json.Record.optional_eq, hget, hmoved, Option.bind_eq_bind,
    Option.bind_eq_some_iff, Option.guard_eq_some', Option.isSome_iff_exists,
    Option.map_eq_some_iff, Option.pure_def, Option.some.injEq]
  constructor
  · rintro ⟨_, hversion, _, hkind, m, hmetadata, i, himmutable, t, htype, -, -, hdata⟩
    exact ⟨⟨hversion, hkind, ⟨m, hmetadata⟩, ⟨i, himmutable⟩, ⟨t, htype⟩⟩, hdata⟩
  · rintro ⟨⟨hversion, hkind, ⟨m, hmetadata⟩, ⟨i, himmutable⟩, ⟨t, htype⟩⟩, hdata⟩
    exact ⟨(), hversion, (), hkind, m, hmetadata, i, himmutable, t, htype, none, rfl, hdata⟩

/-! ## Contents -/

/-- A secret as the API keeps it holds what its data hold, key by key. -/
theorem IsKept.holds_iff {ms : Json.Members} (h : IsKept (.obj ms)) {data : SecretData} :
    Holds (.obj ms) data ↔ Readable (.obj ms) ∧ ∃ d, members? (.obj ms) = some d ∧
      ∀ k, (Entries.get? k d).map text? = (data.get? k).map some := by
  simp only [Holds, ofJson?_eq_some h.moved, texts_eq_ok, forall_const]
  -- The values are first read as bytes, all of them, and then as texts.
  have hmap {d : Json.Members} {bytes : SortedMap String (List UInt8)}
      (hd : members? (.obj ms) = some d) : Json.map? bytes? (.obj d) = some bytes ↔
        ∀ k, (Entries.get? k d).map bytes? = (bytes.get? k).map some :=
    SortedMap.ofList_readValues_eq_some (h.sorted hd)
  have htext (k : String) (d : Json.Members) : (Entries.get? k d).map text? =
      ((Entries.get? k d).map bytes?).map (·.bind Base64.text?) := by
    rw [Option.map_map]
    rfl
  constructor
  · rintro ⟨bytes, ⟨hreadable, d, hd, hbytes⟩, htexts⟩
    refine ⟨hreadable, d, hd, fun k => ?_⟩
    rw [htext, (hmap hd).1 hbytes k, ← htexts k, Option.map_map]
    rfl
  · rintro ⟨hreadable, d, hd, htexts⟩
    have hall : ∀ e ∈ d, (bytes? e.2).isSome := by
      intro e he
      have hk := htexts e.1
      rw [Entries.get?_of_mem (h.sorted hd) he, Option.map_some] at hk
      cases hread : bytes? e.2 with
      | some b => rfl
      | none =>
        rw [text?, hread] at hk
        cases hdata : data.get? e.1 <;> simp [hdata] at hk
    obtain ⟨es, hes⟩ := SortedMap.exists_readValues hall
    have hbytes : Json.map? bytes? (.obj d) = some (.ofList es) :=
      congrArg (Option.map SortedMap.ofList) hes
    refine ⟨.ofList es, ⟨hreadable, d, hd, hbytes⟩, fun k => ?_⟩
    have hk := htexts k
    rw [htext, (hmap hd).1 hbytes k, Option.map_map] at hk
    exact hk

/-! ## Moving texts -/

/-- The texts that wait to be moved. -/
def waiting (j : Json) : Json.Members :=
  match j.get? "stringData" with
  | some (.obj ts) => ts
  | _ => []

/-- Moving texts changes the data, and only if there are any. -/
theorem sealTexts_obj (ms : Json.Members) :
    sealTexts (.obj ms) =
      if waiting (.obj ms) = [] then .obj (Entries.erase "stringData" ms)
      else .obj (Entries.insert "data"
        (.obj (insertTexts ((members? (.obj ms)).getD []) (waiting (.obj ms))))
        (Entries.erase "stringData" ms)) := by
  have hdata : Entries.get? "data" (Entries.erase "stringData" ms) = (Json.obj ms).get? "data" :=
    Entries.get?_erase_of_ne ms (by decide)
  have htexts : Entries.get? "stringData" ms = (Json.obj ms).get? "stringData" := rfl
  rw [sealTexts, htexts, hdata, waiting]
  cases (Json.obj ms).get? "stringData" with
  | none => rfl
  | some field =>
    cases field with
    | obj ts =>
      cases ts with
      | nil => rfl
      | cons t ts =>
        rw [if_neg (List.cons_ne_nil t ts), members?]
        rcases (Json.obj ms).get? "data" with - | (_ | _ | _ | _ | _ | _ | _) <;> rfl
    | _ => rfl

theorem get?_sealTexts {ms : Json.Members} {key : String} (hdata : key ≠ "data")
    (htexts : key ≠ "stringData") : (sealTexts (.obj ms)).get? key = (Json.obj ms).get? key := by
  rw [sealTexts_obj]
  split
  · exact Entries.get?_erase_of_ne ms htexts
  · exact (Entries.get?_insert_of_ne _ _ hdata).trans (Entries.get?_erase_of_ne ms htexts)

theorem moved_sealTexts (ms : Json.Members) : (sealTexts (.obj ms)).get? "stringData" = none := by
  rw [sealTexts_obj]
  split
  · exact Entries.get?_erase_self _ ms
  · exact (Entries.get?_insert_of_ne _ _ (by decide)).trans (Entries.get?_erase_self _ ms)

theorem members?_sealTexts (ms : Json.Members) :
    members? (sealTexts (.obj ms)) =
      if waiting (.obj ms) = [] then members? (.obj ms)
      else some (insertTexts ((members? (.obj ms)).getD []) (waiting (.obj ms))) := by
  have hdata : Entries.get? "data" (Entries.erase "stringData" ms) = (Json.obj ms).get? "data" :=
    Entries.get?_erase_of_ne ms (by decide)
  rw [sealTexts_obj]
  split
  · rw [members?, Json.get?, hdata]
    rfl
  · rw [members?, Json.get?, Entries.get?_insert_self]

/-- What the API keeps of an object with data in key order is a secret as it keeps them. -/
theorem isKept_sealTexts {ms : Json.Members}
    (hsorted : ∀ d, members? (.obj ms) = some d → Entries.Sorted d) :
    IsKept (sealTexts (.obj ms)) where
  moved := moved_sealTexts ms
  sorted {d} hd := by
    rw [members?_sealTexts] at hd
    split at hd
    · exact hsorted d hd
    · obtain rfl := Option.some.inj hd
      refine Entries.sorted_foldl_insert ?_
      cases hmembers : members? (.obj ms) with
      | none => exact .nil
      | some d => exact hsorted d hmembers

/-- Moving texts lays them over what the data hold. -/
theorem holds_sealTexts {ms ts d : Json.Members} {texts old new : SecretData}
    (hreadable : Readable (.obj ms)) (hd : members? (.obj ms) = some d) (hsorted : Entries.Sorted d)
    (hts : waiting (.obj ms) = ts) (hsorted' : Entries.Sorted ts)
    (htexts : ∀ k, Entries.get? k ts = (texts.get? k).map .str)
    (hold : ∀ k, (Entries.get? k d).map text? = (old.get? k).map some)
    (hnew : ∀ k, new.get? k = (texts.get? k).or (old.get? k)) :
    Holds (sealTexts (.obj ms)) new := by
  have hkept : IsKept (sealTexts (.obj ms)) := by
    refine isKept_sealTexts fun d' hd' => ?_
    rw [hd] at hd'
    obtain rfl := Option.some.inj hd'
    exact hsorted
  obtain ⟨ms', hms'⟩ : ∃ ms', sealTexts (.obj ms) = .obj ms' := by
    rw [sealTexts_obj]
    split <;> exact ⟨_, rfl⟩
  have hmembers : members? (sealTexts (.obj ms)) = some (insertTexts d ts) := by
    rw [members?_sealTexts, hd, hts]
    split
    · next hnone =>
      rw [hnone]
      rfl
    · rfl
  have hfields : Readable (sealTexts (.obj ms)) :=
    hreadable.congr fun key hkey hkey' => get?_sealTexts hkey hkey'
  rw [hms'] at hkept hmembers hfields ⊢
  refine hkept.holds_iff.2 ⟨hfields, _, hmembers, fun k => ?_⟩
  rw [insertTexts, Entries.get?_foldl_insert hsorted', htexts, hnew]
  cases texts.get? k with
  | none => exact hold k
  | some text => simp

/-! ## Secrets of clients -/

theorem get?_textsJson (data : SecretData) (k : String) :
    Entries.get? k (data.entries.map fun e => (e.1, Json.str e.2)) = (data.get? k).map .str :=
  Entries.get?_map k Json.str data.entries

/-- A new secret holds what it is created with. -/
theorem holds_new (space name : String) (data : SecretData) :
    Holds (sealTexts (newJson space name data)) data := by
  have hreadable : Readable (newJson space name data) := ⟨rfl, rfl, rfl, rfl, rfl⟩
  have hempty (k : String) :
      (Entries.get? k []).map text? = ((.empty : SecretData).get? k).map some := rfl
  refine holds_sealTexts hreadable rfl .nil rfl (Entries.sorted_map data.sorted)
    (get?_textsJson data) hempty fun k => ?_
  rw [SortedMap.get?_empty, Option.or_none]

theorem isKept_new (space name : String) (data : SecretData) :
    IsKept (sealTexts (newJson space name data)) := by
  refine isKept_sealTexts fun d hd => ?_
  obtain rfl : [] = d := Option.some.inj hd
  exact .nil

theorem mergeMembers_texts (ms : Json.Members) (es : List (String × String)) :
    Json.mergeMembers ms (es.map fun e => (e.1, .str e.2)) =
      es.foldl (fun d e => Entries.insert e.1 (.str e.2) d) ms := by
  induction es generalizing ms with
  | nil => simp [Json.mergeMembers]
  | cons e rest ih => simp [Json.mergeMembers, Json.mergePatch, ih]

/-- The texts of a patch wait to be moved, with those that wait already; nothing else changes. -/
theorem mergePatch_patchJson_obj (ms : Json.Members) (texts : SecretData) :
    (Json.obj ms).mergePatch (patchJson texts) = .obj (Entries.insert "stringData"
      (.obj (texts.entries.foldl (fun d e => Entries.insert e.1 (.str e.2) d)
        (waiting (.obj ms)))) ms) := by
  simp only [patchJson, textsJson, Json.ofMap, Json.mergePatch, Json.mergeMembers,
    mergeMembers_texts, waiting, Json.get?]
  rcases Entries.get? "stringData" ms with - | (_ | _ | _ | _ | _ | _ | _) <;> rfl

/-- What is no object is patched as if it were an empty one. -/
theorem exists_mergePatch_patchJson (j : Json) :
    ∃ ms, (∀ texts : SecretData,
        j.mergePatch (patchJson texts) = (Json.obj ms).mergePatch (patchJson texts)) ∧
      (IsKept j → IsKept (.obj ms)) := by
  have hempty : IsKept (.obj []) := ⟨rfl, fun hd => Option.some.inj hd ▸ .nil⟩
  cases j with
  | obj ms => exact ⟨ms, fun _ => rfl, id⟩
  | _ => exact ⟨[], fun _ => rfl, fun _ => hempty⟩

/-- Where no texts wait, those of a patch do afterwards. -/
theorem mergePatch_patchJson {ms : Json.Members} (hmoved : (Json.obj ms).get? "stringData" = none)
    (texts : SecretData) :
    ∃ ts, (Json.obj ms).mergePatch (patchJson texts) =
        .obj (Entries.insert "stringData" (.obj ts) ms) ∧
      Entries.Sorted ts ∧ ∀ k, Entries.get? k ts = (texts.get? k).map .str := by
  have hwaiting : waiting (.obj ms) = [] := by rw [waiting, hmoved]
  refine ⟨_, mergePatch_patchJson_obj ms texts, ?_, fun k => ?_⟩
  · rw [hwaiting]
    exact Entries.sorted_foldl_insert .nil
  · rw [hwaiting, Entries.get?_foldl_insert texts.sorted]
    exact Option.or_none

theorem get?_insert_texts (ms ts : Json.Members) {key : String} (hkey : key ≠ "stringData") :
    (Json.obj (Entries.insert "stringData" (.obj ts) ms)).get? key = (Json.obj ms).get? key :=
  Entries.get?_insert_of_ne _ ms hkey

theorem members?_insert_texts (ms ts : Json.Members) :
    members? (.obj (Entries.insert "stringData" (.obj ts) ms)) = members? (.obj ms) := by
  rw [members?, members?, get?_insert_texts ms ts (by decide)]

theorem waiting_insert_texts (ms ts : Json.Members) :
    waiting (.obj (Entries.insert "stringData" (.obj ts) ms)) = ts := by
  rw [waiting, Json.get?, Entries.get?_insert_self]

/-- What the API keeps of an object in which texts wait to be moved. -/
theorem sealTexts_insert_texts (ms ts : Json.Members) :
    sealTexts (.obj (Entries.insert "stringData" (.obj ts) ms)) =
      if ts = [] then .obj (Entries.erase "stringData" ms)
      else .obj (Entries.insert "data" (.obj (insertTexts ((members? (.obj ms)).getD []) ts))
        (Entries.erase "stringData" ms)) := by
  rw [sealTexts_obj, waiting_insert_texts, members?_insert_texts, Entries.erase_insert]

/-- A patch lays its texts over those that a secret holds. -/
theorem Holds.patch {j : Json} {old : SecretData} (h : Holds j old) (hkept : IsKept j)
    (texts : SecretData) :
    Holds (sealTexts (j.mergePatch (patchJson texts))) (texts.overlay old) := by
  obtain ⟨ms, rfl⟩ : ∃ ms, j = .obj ms := by
    obtain ⟨bytes, hbytes, -⟩ := h
    cases j with
    | obj ms => exact ⟨ms, rfl⟩
    | _ => cases hbytes
  obtain ⟨hreadable, d, hd, hold⟩ := hkept.holds_iff.1 h
  obtain ⟨ts, hpatch, hsorted, hts⟩ := mergePatch_patchJson hkept.moved texts
  rw [hpatch]
  refine holds_sealTexts ?_ ?_ (hkept.sorted hd) (waiting_insert_texts ms ts) hsorted hts hold
    (SortedMap.get?_overlay texts old)
  · exact hreadable.congr fun key _ hkey => get?_insert_texts ms ts hkey
  · rw [members?_insert_texts, hd]

theorem IsKept.patch {j : Json} (hkept : IsKept j) (texts : SecretData) :
    IsKept (sealTexts (j.mergePatch (patchJson texts))) := by
  obtain ⟨ms, hms, hobject⟩ := exists_mergePatch_patchJson j
  have hkept : IsKept (.obj ms) := hobject hkept
  obtain ⟨ts, hpatch, -⟩ := mergePatch_patchJson hkept.moved texts
  rw [hms, hpatch]
  refine isKept_sealTexts fun d hd => ?_
  rw [members?_insert_texts] at hd
  exact hkept.sorted hd

/-! ## Which secrets can be read

Whether a patched secret can be read depends on the keys of the patch only.
-/

theorem isSome_bytes?_encodedText (j j' : Json) :
    (bytes? (encodedText j)).isSome = (bytes? (encodedText j')).isSome := by
  simp [encodedText, bytes?, Base64.decode?_ofText]

/-- Of encoded data it matters under which keys there are bytes. -/
theorem isSome_ofJson?_insert_data {ms d d' : Json.Members}
    (hmoved : Entries.get? "stringData" ms = none)
    (hd : d.map (fun e => (e.1, (bytes? e.2).isSome)) =
      d'.map fun e => (e.1, (bytes? e.2).isSome))
    (h : (ofJson? (.obj (Entries.insert "data" (.obj d) ms))).isSome) :
    (ofJson? (.obj (Entries.insert "data" (.obj d') ms))).isSome := by
  have hget (d : Json.Members) {key : String} (hkey : key ≠ "data") :
      (Json.obj (Entries.insert "data" (.obj d) ms)).get? key = (Json.obj ms).get? key :=
    Entries.get?_insert_of_ne _ ms hkey
  have hmembers (d : Json.Members) :
      members? (.obj (Entries.insert "data" (.obj d) ms)) = some d := by
    rw [members?, Json.get?, Entries.get?_insert_self]
  have hmap (d : Json.Members) : (Json.map? bytes? (.obj d)).isSome =
      (d.map fun e => (e.1, (bytes? e.2).isSome)).all (·.2) := by
    rw [List.all_map]
    exact Option.isSome_map.trans (SortedMap.isSome_readValues bytes? d)
  obtain ⟨bytes, hbytes⟩ := Option.isSome_iff_exists.1 h
  obtain ⟨hreadable, e, he, hread⟩ :=
    (ofJson?_eq_some ((hget d (by decide)).trans hmoved)).1 hbytes
  rw [hmembers] at he
  obtain rfl := Option.some.inj he
  obtain ⟨bytes', hread'⟩ : ∃ bytes', Json.map? bytes? (.obj d') = some bytes' := by
    rw [← Option.isSome_iff_exists, hmap, ← hd, ← hmap, hread]
    rfl
  refine Option.isSome_iff_exists.2 ⟨bytes',
    (ofJson?_eq_some ((hget d' (by decide)).trans hmoved)).2 ⟨?_, d', hmembers d', hread'⟩⟩
  exact hreadable.congr fun key hkey _ => (hget d' hkey).trans (hget d hkey).symm

/-- A patched secret can be read whatever texts the patch puts under its keys. -/
theorem isSome_ofJson?_patch (old : Json) {data data' : SecretData} (hkeys : data.keys = data'.keys)
    (h : (ofJson? (sealTexts (old.mergePatch (patchJson data)))).isSome) :
    (ofJson? (sealTexts (old.mergePatch (patchJson data')))).isSome := by
  obtain ⟨ms, hms, -⟩ := exists_mergePatch_patchJson old
  rw [hms, mergePatch_patchJson_obj, sealTexts_insert_texts] at h ⊢
  have hshape := Entries.map_foldl_insert_congr (f := Json.str) (g := fun _ => ())
    (fun _ _ => rfl) hkeys (d := waiting (.obj ms)) rfl
  -- From here on it only matters that the texts wait under the same keys.
  generalize data.entries.foldl _ (waiting (.obj ms)) = ts at h hshape
  generalize data'.entries.foldl _ (waiting (.obj ms)) = ts' at hshape ⊢
  have hts : ts.map (·.1) = ts'.map (·.1) := by
    simpa [Function.comp_def] using congrArg (List.map Prod.fst) hshape
  by_cases hnone : ts = []
  · obtain rfl : ts' = [] := List.map_eq_nil_iff.1 (hts.symm.trans (by rw [hnone]; rfl))
    rwa [if_pos hnone] at h
  · have hsome : ts' ≠ [] := by
      rintro rfl
      exact hnone (List.map_eq_nil_iff.1 hts)
    rw [if_neg hnone] at h
    rw [if_neg hsome]
    have hencoded := Entries.map_foldl_insert_congr (f := encodedText)
      (g := fun j => (bytes? j).isSome) isSome_bytes?_encodedText hts
      (d := (members? (.obj ms)).getD []) rfl
    exact isSome_ofJson?_insert_data (Entries.get?_erase_self _ ms) hencoded h

end Secret

end ClusterAdmission
