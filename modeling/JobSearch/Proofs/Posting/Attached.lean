import JobSearch.Catalog.Display
import JobSearch.Proofs.Posting.Reader
import JobSearch.Proofs.Sequence

/-!
# The lists attached to a posting

A posting that was read has the id of its row, and in each of the attached fields the texts of the
list that was attached under the key of the field (`Posting.attachedItems_of_read`). Other parts of
the row may fail to be read, but what is read does not depend on them.

## Main definitions

* `Posting.attached` — the labels of a posting in an attached field.
-/

namespace JobSearch

namespace Posting

/-- The labels of a posting in a field whose labels are attached to it. -/
def attached (p : Posting) : Field → List String
  | .hardSkills => p.requirements.hardSkills
  | .softSkills => p.requirements.softSkills
  | .certifications => p.requirements.certifications
  | .languages => p.requirements.languages
  | .benefits => p.benefits
  | .responsibilities => p.details.responsibilities
  | .workEnvironment => p.details.workEnvironment
  | .professionalDevelopment => p.details.professionalDevelopment
  | _ => []

variable {row attached : Json} {texts : String → List String}

theorem Requirements.of_read (hitems : ∀ key, attachedItems attached key = .ok ((texts key).map .text))
    {r : Requirements} (h : Requirements.read row attached = .ok r) :
    r.languages = texts "languages" ∧ r.hardSkills = texts "hard_skills" ∧
      r.softSkills = texts "soft_skills" ∧ r.certifications = texts "certifications" := by
  simp only [Requirements.read, hitems, bind, Except.bind, Json.readTexts_map] at h
  refine Checked.Ensures.of_toExcept (P := fun r : Requirements =>
    r.languages = texts "languages" ∧ r.hardSkills = texts "hard_skills" ∧
      r.softSkills = texts "soft_skills" ∧ r.certifications = texts "certifications") ?_ h
  simp only [Checked.ensures_seq, Checked.ensures_map, Checked.ensures_valid, and_self,
    Checked.ensures_true]

theorem Details.of_read (hitems : ∀ key, attachedItems attached key = .ok ((texts key).map .text))
    {d : Details} (h : Details.read attached = .ok d) :
    d.responsibilities = texts "responsibilities" ∧ d.workEnvironment = texts "work_environment" ∧
      d.professionalDevelopment = texts "professional_development" := by
  simp only [Details.read, hitems, bind, Except.bind, Json.readTexts_map, Checked.map_valid,
    Checked.seq_valid, Checked.toExcept, Except.ok.injEq] at h
  subst h
  exact ⟨rfl, rfl, rfl⟩

/-- A posting is put together from its id and the parts that were read. -/
theorem of_read (hitems : ∀ key, attachedItems attached key = .ok ((texts key).map .text))
    {p : Posting} (h : Posting.read row attached = .ok p) :
    readId row = .ok p.id ∧ Requirements.read row attached = .ok p.requirements ∧
      p.benefits = texts "benefits" ∧ Details.read attached = .ok p.details := by
  simp only [Posting.read, bind_eq_ok_iff] at h
  obtain ⟨id, hid, location, -, salary, -, employment, -, requirements, hrequirements, benefits,
    hbenefits, origin, -, details, hdetails, wording, -, h⟩ := h
  obtain rfl : (texts "benefits").map Json.text = benefits :=
    Except.ok.inj ((hitems "benefits").symm.trans hbenefits)
  rw [hid, hrequirements, hdetails]
  refine Checked.Ensures.of_toExcept (P := fun p : Posting =>
    Except.ok id = Except.ok (ε := Fault) p.id ∧
      Except.ok requirements = Except.ok (ε := Fault) p.requirements ∧
      p.benefits = texts "benefits" ∧
      Except.ok details = Except.ok (ε := Fault) p.details) ?_ h
  simp only [Checked.ensures_seq, Checked.ensures_map, Checked.ensures_pure, Checked.ensures_valid,
    Json.readTexts_map, and_self, Checked.ensures_true]

/-- A posting has the id of its row, and the labels that were attached. -/
theorem attachedItems_of_read {attached : List (String × Json)} (ha : Attached attached)
    {p : Posting} (h : Posting.read row (.object attached) = .ok p) :
    readId row = .ok p.id ∧ ∀ f ∈ attachedFields,
      attachedItems (.object attached) f.key = .ok ((p.attached f).map .text) := by
  choose texts hitems using ha.items
  obtain ⟨hid, hrequirements, hbenefits, hdetails⟩ := of_read hitems h
  obtain ⟨hlanguages, hhard, hsoft, hcertifications⟩ := Requirements.of_read hitems hrequirements
  obtain ⟨hresponsibilities, henvironment, hdevelopment⟩ := Details.of_read hitems hdetails
  refine ⟨hid, fun f hf => ?_⟩
  rw [hitems]
  refine congrArg (fun ts => Except.ok (List.map Json.text ts)) ?_
  simp only [attachedFields, List.mem_cons, List.not_mem_nil, or_false] at hf
  rcases hf with rfl | rfl | rfl | rfl | rfl | rfl | rfl | rfl
  · exact hhard.symm
  · exact hsoft.symm
  · exact hcertifications.symm
  · exact hbenefits.symm
  · exact hresponsibilities.symm
  · exact hlanguages.symm
  · exact henvironment.symm
  · exact hdevelopment.symm

end Posting

end JobSearch
