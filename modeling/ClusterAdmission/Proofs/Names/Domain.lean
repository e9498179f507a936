import ClusterAdmission.Policy.Platform
import ClusterAdmission.Proofs.Names.Qualified

/-!
# Domains and DNS names

A DNS name bounds its length as a whole and the length of each label. The rule for domains has only
the first bound. So it accepts the DNS names and, besides them, the domains that have a label of
more than 63 bytes (`Names.isDomain_iff_dnsName_or_overlong`), and these are the suffixes that
split-horizon configs may have (`Policy.accepted_domains`).
-/

namespace ClusterAdmission

namespace Names

variable {name : String} {label : List Char}

/-- A label of a DNS name: 1 to 63 bytes, and lowercase letters, digits and hyphens, with no hyphen
at either end. -/
structure DnsLabel (label : List Char) : Prop where
  nonempty : 1 ≤ (String.ofList label).utf8ByteSize
  size : (String.ofList label).utf8ByteSize ≤ 63
  framed : Framed isLowerOrDigit isDomainChar label

/-- A DNS name: at most 253 bytes, and labels between its dots. -/
structure DnsName (name : String) : Prop where
  size : name.utf8ByteSize ≤ 253
  labels (label : List Char) : label ∈ Text.splitOn '.' name.toList → DnsLabel label

/-- A domain with a label that is too long for a DNS name. -/
structure Overlong (name : String) : Prop where
  domain : Domain name
  long : ∃ label ∈ Text.splitOn '.' name.toList, 63 < (String.ofList label).utf8ByteSize

theorem Framed.utf8ByteSize_pos {outer inner : Char → Bool} {cs : List Char}
    (h : Framed outer inner cs) : 1 ≤ (String.ofList cs).utf8ByteSize := by
  obtain ⟨c, hc, -⟩ := h.start
  refine Nat.one_le_iff_ne_zero.2 fun hzero => ?_
  have hnil : cs = [] := by
    rw [← String.toList_ofList (l := cs), String.utf8ByteSize_eq_zero_iff.1 hzero]
    exact String.toList_empty
  rw [hnil] at hc
  cases hc

theorem dnsLabel_iff : DnsLabel label ↔
    Framed isLowerOrDigit isDomainChar label ∧ (String.ofList label).utf8ByteSize ≤ 63 :=
  ⟨fun ⟨_, hsize, hframed⟩ => ⟨hframed, hsize⟩,
    fun ⟨hframed, hsize⟩ => ⟨hframed.utf8ByteSize_pos, hsize, hframed⟩⟩

/-- The DNS names are the domains without a label that is too long. -/
theorem dnsName_iff : DnsName name ↔ Domain name ∧
    ∀ label ∈ Text.splitOn '.' name.toList, (String.ofList label).utf8ByteSize ≤ 63 := by
  constructor
  · rintro ⟨hsize, hlabels⟩
    exact ⟨⟨hsize, fun label hlabel => (hlabels label hlabel).framed⟩,
      fun label hlabel => (hlabels label hlabel).size⟩
  · rintro ⟨⟨hsize, hparts⟩, hshort⟩
    exact ⟨hsize, fun label hlabel => dnsLabel_iff.2 ⟨hparts label hlabel, hshort label hlabel⟩⟩

theorem Overlong.not_dnsName (h : Overlong name) : ¬ DnsName name := by
  intro hname
  obtain ⟨label, hlabel, hlong⟩ := h.long
  exact Nat.not_lt_of_le (hname.labels label hlabel).size hlong

/-- A domain is a DNS name, or one of its labels is too long. -/
theorem isDomain_iff_dnsName_or_overlong : isDomain name ↔ DnsName name ∨ Overlong name := by
  rw [isDomain_iff]
  constructor
  · intro hdomain
    by_cases hshort : ∀ label ∈ Text.splitOn '.' name.toList,
        (String.ofList label).utf8ByteSize ≤ 63
    · exact .inl (dnsName_iff.2 ⟨hdomain, hshort⟩)
    · push Not at hshort
      exact .inr ⟨hdomain, hshort⟩
  · rintro (hname | hlong)
    · exact (dnsName_iff.1 hname).1
    · exact hlong.domain

end Names

/-! ## Suffixes of split-horizon configs -/

namespace Rules

theorem domain_eq_ok (name : String) :
    domain name = .ok () ↔ Names.DnsName name ∨ Names.Overlong name :=
  require_eq_ok.trans Names.isDomain_iff_dnsName_or_overlong

/-- A domain that has a single label of 64 bytes is accepted, though no DNS name and no label of a
resource. -/
theorem long_label_accepted :
    let name := String.ofList (List.replicate 64 'a')
    domain name = .ok () ∧ ¬ Names.DnsName name ∧ label name = .error (.invalidName name) := by
  intro name
  refine ⟨by decide +kernel, fun h => ?_, by decide +kernel⟩
  have hmem : name.toList ∈ Text.splitOn '.' name.toList := by decide +kernel
  exact absurd (h.labels _ hmem).size (by decide +kernel)

end Rules

namespace Policy

variable {view : View} {prober : Prober}

theorem splitHorizonCreate_eq_ok {r : NewSplitHorizon} :
    (splitHorizonCreate r).run view prober = .ok () ↔
      Names.Label r.config.name ∧ Rules.domain r.config.spec.baseDomainNameSuffix = .ok () ∧
        Rules.certificateAuthority r.ca = .ok () := by
  simp only [splitHorizonCreate, Check.run_then_eq_ok, Check.run_rule_eq_ok]
  rw [Rules.label, Rules.require_eq_ok, Names.isLabel_iff]

theorem splitHorizonUpdate_eq_ok {u : SplitHorizonUpdate} :
    (splitHorizonUpdate u).run view prober = .ok () ↔
      (∃ current, view (.splitHorizon u.space u.name) = .ok current) ∧
        (∀ suffix ∈ u.baseDomainNameSuffix, Rules.domain suffix = .ok ()) ∧
        ∀ ca ∈ u.ca, Rules.certificateAuthority ca = .ok () := by
  rw [splitHorizonUpdate, Check.run_bind_eq_ok]
  simp only [exists_and_right]
  refine and_congr (exists_congr fun _ => Check.run_get_eq_ok) ?_
  cases u.baseDomainNameSuffix with
  | none => cases u.ca <;> simp
  | some suffix => cases u.ca <;> simp

/-- The rule for domains accepts the DNS names and the overlong domains, so that exactly the overlong
ones are judged wrongly. Split-horizon configs are created with such suffixes, and updates bring
such suffixes. -/
theorem accepted_domains (view : View) (prober : Prober) (name : String) :
    (Rules.domain name = .ok () ↔ Names.DnsName name ∨ Names.Overlong name) ∧
      ((Rules.domain name = .ok () ↔ Names.DnsName name) ↔ ¬ Names.Overlong name) ∧
      (∀ r, (splitHorizonCreate r).run view prober = .ok () ↔
        Names.Label r.config.name ∧
          (Names.DnsName r.config.spec.baseDomainNameSuffix ∨
            Names.Overlong r.config.spec.baseDomainNameSuffix) ∧
          Rules.certificateAuthority r.ca = .ok ()) ∧
      ∀ u, (splitHorizonUpdate u).run view prober = .ok () ↔
        (∃ current, view (.splitHorizon u.space u.name) = .ok current) ∧
          (∀ suffix ∈ u.baseDomainNameSuffix, Names.DnsName suffix ∨ Names.Overlong suffix) ∧
          ∀ ca ∈ u.ca, Rules.certificateAuthority ca = .ok () := by
  have hrule := Rules.domain_eq_ok
  refine ⟨hrule name, ?_, fun r => ?_, fun u => ?_⟩
  · rw [hrule, or_iff_left_iff_imp]
    exact ⟨fun himp hlong => hlong.not_dnsName (himp hlong), fun hnot hlong => absurd hlong hnot⟩
  · rw [splitHorizonCreate_eq_ok, hrule]
  · simp only [splitHorizonUpdate_eq_ok, hrule]

end Policy

end ClusterAdmission
