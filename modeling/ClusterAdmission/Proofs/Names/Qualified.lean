import ClusterAdmission.Proofs.Check.Program
import ClusterAdmission.Proofs.Names
import ClusterAdmission.Rules.Platform

/-!
# Domains and qualified names

A domain is parts between dots (`Names.isDomain_iff`). A qualified name is a local name, alone or
behind a domain and a slash (`Names.isQualified_iff`), and these are the keys that annotations may
have (`Rules.annotations_qualified`).
-/

namespace ClusterAdmission

namespace Names

open Text.Pattern

/-! ## Domains -/

/-- A domain: at most 253 bytes, and lowercase letters, digits and hyphens between its dots, with no
hyphen at either end of a part. -/
structure Domain (name : String) : Prop where
  size : name.utf8ByteSize ≤ 253
  parts (part : List Char) : part ∈ Text.splitOn '.' name.toList →
    Framed isLowerOrDigit isDomainChar part

theorem mem_domainPattern : cs ∈ domainPattern.language ↔
    ∀ part ∈ Text.splitOn '.' cs, Framed isLowerOrDigit isDomainChar part := by
  have hdot (part : List Char) (hpart : part ∈ partPattern.language) : '.' ∉ part := fun hmem =>
    absurd ((mem_partPattern.1 hpart).chars '.' hmem) (by decide)
  rw [domainPattern, mem_separated hdot]
  simp only [mem_partPattern]

theorem isDomain_iff {name : String} : isDomain name ↔ Domain name := by
  rw [isDomain, Bool.and_eq_true, decide_eq_true_eq, accepts_iff, mem_domainPattern]
  exact ⟨fun ⟨hsize, hparts⟩ => ⟨hsize, hparts⟩, fun ⟨hsize, hparts⟩ => ⟨hsize, hparts⟩⟩

theorem Domain.slash_not_mem {name : String} (h : Domain name) : '/' ∉ name.toList := by
  intro hmem
  rw [← Text.joinWith_splitOn '.' name.toList] at hmem
  rcases Text.mem_joinWith hmem with hdot | ⟨part, hpart, hslash⟩
  · cases hdot
  · exact absurd ((h.parts part hpart).chars '/' hslash) (by decide)

/-! ## Qualified names -/

/-- A local name: at most 63 letters, digits, hyphens, underscores and dots, with a letter or a
digit at both ends. -/
structure LocalName (name : String) : Prop where
  size : name.utf8ByteSize ≤ 63
  framed : Framed isLetterOrDigit isLocalChar name.toList

theorem isLocalName_iff {name : String} : isLocalName name ↔ LocalName name := by
  have hchar (c : Char) (h : isLetterOrDigit c) : isLocalChar c := by
    simp [isLocalChar, h]
  rw [isLocalName, Bool.and_eq_true, decide_eq_true_eq, accepts_iff, localNamePattern,
    mem_framed_last hchar]
  exact ⟨fun ⟨hsize, hframed⟩ => ⟨hsize, hframed⟩, fun ⟨hsize, hframed⟩ => ⟨hsize, hframed⟩⟩

theorem LocalName.slash_not_mem {name : String} (h : LocalName name) : '/' ∉ name.toList :=
  fun hmem => absurd (h.framed.chars '/' hmem) (by decide)

/-- A local name, or a domain and a local name with a slash between them. There is no other
slash. -/
inductive QualifiedName : String → Prop
  | bare {name : String} : '/' ∉ name.toList → LocalName name → QualifiedName name
  | qualified {domain name : String} : '/' ∉ domain.toList → Domain domain →
      '/' ∉ name.toList → LocalName name → QualifiedName (domain ++ "/" ++ name)

theorem isQualified_iff {key : String} : isQualified key ↔ QualifiedName key := by
  unfold isQualified
  constructor
  · intro h
    split at h
    · next domain name hcut =>
      obtain ⟨hkey, -⟩ := Text.cutFirst_eq_some.1 hcut
      obtain ⟨hdomain, hname⟩ := (Bool.and_eq_true _ _).mp h
      have heq : key = String.ofList domain ++ "/" ++ String.ofList name := by
        rw [← String.toList_inj, hkey]
        simp
      rw [isDomain_iff] at hdomain
      rw [isLocalName_iff] at hname
      rw [heq]
      exact .qualified hdomain.slash_not_mem hdomain hname.slash_not_mem hname
    · have hname := isLocalName_iff.1 h
      exact .bare hname.slash_not_mem hname
  · intro h
    cases h with
    | bare hslash hname =>
      rw [Text.cutFirst_of_not_mem hslash]
      exact isLocalName_iff.2 hname
    | @qualified domain name hslash hdomain _ hname =>
      have hkey : (domain ++ "/" ++ name).toList = domain.toList ++ '/' :: name.toList := by simp
      rw [hkey, Text.cutFirst_append hslash]
      simp [isDomain_iff.2 hdomain, isLocalName_iff.2 hname]

end Names

/-! ## Keys of annotations -/

namespace Rules

theorem annotationKeys_eq_ok {keys : List String} :
    annotationKeys keys = .ok () ↔ ∀ key ∈ keys, annotationKey key = .ok () := by
  induction keys with
  | nil => simp [annotationKeys]
  | cons key keys ih => rw [annotationKeys, bind_eq_ok, ih, List.forall_mem_cons]

/-- The keys of annotations are qualified names, and a load balancer config passes exactly if its
name is a label and its annotations have such keys. -/
theorem annotations_qualified :
    (∀ key, annotationKey key = .ok () ↔ Names.QualifiedName key) ∧
      ∀ c : LoadBalancerConfig, loadBalancer c = .ok () ↔
        Names.Label c.name ∧ ∀ key ∈ c.spec.annotations.keys, Names.QualifiedName key := by
  have hkey (key : String) : annotationKey key = .ok () ↔ Names.QualifiedName key :=
    require_eq_ok.trans Names.isQualified_iff
  refine ⟨hkey, fun c => ?_⟩
  rw [loadBalancer, bind_eq_ok, label, require_eq_ok, Names.isLabel_iff, annotationKeys_eq_ok]
  simp only [hkey]

end Rules

end ClusterAdmission
