import IntentGate.Files

set_option autoImplicit false

namespace IntentGate

open Text

inductive Holds (content : FileContent) (schema : DomainSchema) : Prop where
  | text (octets : Octets) (s : String) (read : content = .ok octets) (decoded : decode? octets = some s)
      (parsed : DomainSchema.ofYaml? s = some schema)

inductive Unloadable (content : FileContent) : Prop where
  | unread (fault : FileFault) (failed : content = .error fault)
  | undecoded (octets : Octets) (read : content = .ok octets) (notText : decode? octets = none)
  | unparsed (octets : Octets) (s : String) (read : content = .ok octets) (decoded : decode? octets = some s)
      (malformed : DomainSchema.ofYaml? s = none)

theorem text_decoded (octets : Octets) (s : String) (decoded : decode? octets = some s) :
    FileContent.text (.ok octets) = .ok s := by
  unfold FileContent.text
  simp only [bind, Except.bind, decoded]
  rfl

theorem load_domain_holds (path : String) (content : FileContent) (schema : DomainSchema)
    (held : Holds content schema) : loadDomain path content = .ok schema := by
  obtain ⟨octets, s, rfl, decoded, parsed⟩ := held
  simp only [loadDomain, text_decoded octets s decoded, parsed]

theorem load_domain_unread (path : String) (content : FileContent) (fault : FileFault)
    (unread : content.text = .error fault) : ∃ e, loadDomain path content = .error e := by
  simp only [loadDomain, unread]
  cases fault <;> exact ⟨_, rfl⟩

theorem load_domain_unloadable (path : String) (content : FileContent) (unloadable : Unloadable content) :
    ∃ e, loadDomain path content = .error e := by
  cases unloadable with
  | unread fault failed =>
      subst failed
      exact load_domain_unread path _ fault rfl
  | undecoded octets read notText =>
      subst read
      apply load_domain_unread path _ .notText
      unfold FileContent.text
      simp only [bind, Except.bind, notText]
      rfl
  | unparsed octets s read decoded malformed =>
      subst read
      simp only [loadDomain, text_decoded octets s decoded, malformed]
      exact ⟨_, rfl⟩

theorem holds_or_unloadable (content : FileContent) : (∃ schema, Holds content schema) ∨ Unloadable content := by
  cases read : content with
  | error fault => exact .inr (.unread fault rfl)
  | ok octets =>
      cases decoded : decode? octets with
      | none => exact .inr (.undecoded octets rfl decoded)
      | some s =>
          cases parsed : DomainSchema.ofYaml? s with
          | none => exact .inr (.unparsed octets s rfl decoded parsed)
          | some schema => exact .inl ⟨schema, .text octets s rfl decoded parsed⟩

end IntentGate
