import ApiBindings.Proofs.Bindings.Parts
import ApiBindings.Proofs.Bindings.Requirements
import ApiBindings.Proofs.Generation.Interfaces
import Mathlib.Data.List.Perm.Basic

/-!
# The unions of responses

Each response of an operation adds its type to one of two unions.  A type counts where it occurs
first, and is never empty, so the word that stands for no type at all stands for no response at all.

* `FirstOccurrences`           the distinct elements of a list, where each occurs first;
* `PartUnion`                  the union of the responses of one part;
* `bind_withResponses`         what other responses change in a binding;
* `isRecordLiteral_of_perm`    a union keeps its form when its members change places;
* `bind_response_unions`       the two unions of a binding, and what they do not depend on.
-/

namespace ApiBindings

open TypeScript

/-! ## first occurrences -/

section
variable {α : Type} [DecidableEq α]

/-- the distinct elements of a list, in the order in which they occur first -/
structure FirstOccurrences (list members : List α) : Prop where
  mem_iff : ∀ a, a ∈ members ↔ a ∈ list
  order : members.Pairwise fun a b => list.idxOf a < list.idxOf b

namespace FirstOccurrences

variable {list list' members members' : List α}

theorem nodup (h : FirstOccurrences list members) : members.Nodup :=
  h.order.imp fun hlt => by
    rintro rfl
    exact Nat.lt_irrefl _ hlt

/-- elements that are kept occur in the same order as before -/
theorem idxOf_lt_of_filter {p : α → Bool} {a b : α} (ha : p a = true) (hb : p b = true)
    (h : (list.filter p).idxOf a < (list.filter p).idxOf b) : list.idxOf a < list.idxOf b := by
  induction list with
  | nil => exact h
  | cons c list ih =>
    by_cases hac : c = a
    · subst hac
      have hcb : c ≠ b := by
        rintro rfl
        exact Nat.lt_irrefl _ h
      rw [List.idxOf_cons_self, List.idxOf_cons_ne list hcb]
      exact Nat.succ_pos _
    · cases hc : p c with
      | false =>
        have hcb : c ≠ b := by
          rintro rfl
          rw [hc] at hb
          cases hb
        rw [List.filter_cons_of_neg (by simp [hc])] at h
        rw [List.idxOf_cons_ne list hac, List.idxOf_cons_ne list hcb]
        exact Nat.succ_lt_succ (ih h)
      | true =>
        rw [List.filter_cons_of_pos hc, List.idxOf_cons_ne _ hac] at h
        by_cases hcb : c = b
        · rw [hcb, List.idxOf_cons_self] at h
          exact absurd h (Nat.not_lt_zero _)
        · rw [List.idxOf_cons_ne _ hcb] at h
          rw [List.idxOf_cons_ne list hac, List.idxOf_cons_ne list hcb]
          exact Nat.succ_lt_succ (ih (Nat.lt_of_succ_lt_succ h))

theorem eraseDups : ∀ list : List α, FirstOccurrences list list.eraseDups
  | [] => ⟨fun _ => List.mem_eraseDups, .nil⟩
  | a :: list => by
    have hshorter : (list.filter fun b => !b == a).length < (a :: list).length :=
      Nat.lt_succ_of_le (List.length_filter_le _ _)
    have hlater := eraseDups (list.filter fun b => !b == a)
    have hkept : ∀ b ∈ (list.filter fun b => !b == a).eraseDups, (!b == a) = true := fun b hb =>
      (List.mem_filter.mp ((hlater.mem_iff b).mp hb)).2
    have hne : ∀ b ∈ (list.filter fun b => !b == a).eraseDups, a ≠ b := by
      rintro b hb rfl
      simpa using hkept a hb
    refine ⟨fun _ => List.mem_eraseDups, ?_⟩
    rw [List.eraseDups_cons]
    refine .cons (fun b hb => ?_) (hlater.order.imp_of_mem fun {b c} hb hc hlt => ?_)
    · rw [List.idxOf_cons_self, List.idxOf_cons_ne list (hne b hb)]
      exact Nat.succ_pos _
    · rw [List.idxOf_cons_ne list (hne b hb), List.idxOf_cons_ne list (hne c hc)]
      exact Nat.succ_lt_succ (idxOf_lt_of_filter (hkept b hb) (hkept c hc) hlt)
termination_by list => list.length
decreasing_by exact hshorter

/-- an element that is there already adds nothing at the end -/
theorem append_of_mem {a : α} (h : a ∈ list) : (list ++ [a]).eraseDups = list.eraseDups := by
  have hnone : [a].removeAll list = [] := by simp [List.removeAll, h]
  rw [List.eraseDups_append, hnone, List.eraseDups_nil, List.append_nil]

theorem perm (h : FirstOccurrences list members) (h' : FirstOccurrences list' members')
    (hperm : list.Perm list') : members.Perm members' := by
  rw [List.perm_ext_iff_of_nodup h.nodup h'.nodup]
  exact fun a => (h.mem_iff a).trans (hperm.mem_iff.trans (h'.mem_iff a).symm)

end FirstOccurrences

end

/-! ## unions -/

theorem payloadType_ne_empty {label : String} {payload : Option (Referable Payload)} {type : String}
    (h : payloadType label payload = .ok type) : type ≠ "" := by
  obtain ⟨_, ⟨c, hc, _⟩, _⟩ := payloadType_written h
  rintro rfl
  cases hc

abbrev TypesOf (payloads : List (String × Option (Referable Payload))) (types : List String) :
    Prop :=
  List.Forall₂ (fun entry type => payloadType entry.1 entry.2 = .ok type) payloads types

def unionOr (fallback : String) (members : List String) : String :=
  if members = [] then fallback else Text.join " | " members

theorem join_ne_empty {members : List String} (h : ∀ t ∈ members, t ≠ "")
    (hne : members ≠ []) : Text.join " | " members ≠ "" := by
  obtain ⟨first, rest, rfl⟩ := List.exists_cons_of_ne_nil hne
  have hfirst := h first List.mem_cons_self
  cases rest with
  | nil => exact hfirst
  | cons second rest =>
    intro hempty
    have hlength := congrArg String.length hempty
    rw [Text.join_cons_cons, String.length_append, String.length_append] at hlength
    exact absurd hlength (by simp)

/-- A union of payloads has a type if each of them has one. -/
theorem payloadUnionOr_eq_ok_iff {fallback type : String}
    {payloads : List (String × Option (Referable Payload))} :
    payloadUnionOr fallback payloads = .ok type ↔
      ∃ types, TypesOf payloads types ∧ type = unionOr fallback types.eraseDups := by
  have htext : ∀ types, TypesOf payloads types →
      (if unionOf types = "" then fallback else unionOf types) =
        unionOr fallback types.eraseDups := by
    intro types htypes
    have hmembers : ∀ t ∈ types.eraseDups, t ≠ "" := by
      intro t ht
      obtain ⟨_, _, hpayload⟩ := exists_mem_of_forall₂ htypes.flip (List.mem_eraseDups.mp ht)
      exact payloadType_ne_empty hpayload
    unfold unionOr unionOf
    by_cases hnil : types.eraseDups = []
    · rw [hnil, if_pos rfl]
      rfl
    · rw [if_neg hnil, if_neg (join_ne_empty hmembers hnil)]
  rw [payloadUnionOr, map_eq_ok]
  constructor
  · rintro ⟨_, hunion, rfl⟩
    obtain ⟨types, htypes, rfl⟩ := map_eq_ok.mp hunion
    have htypes := payloadTypes_eq_ok.mp htypes
    exact ⟨types, htypes, htext types htypes⟩
  · rintro ⟨types, htypes, rfl⟩
    exact ⟨unionOf types, map_eq_ok.mpr ⟨types, payloadTypes_eq_ok.mpr htypes, rfl⟩,
      htext types htypes⟩

/-! ## parts -/

/-- The members of the union of one part of the responses and its text: each response adds its type,
which is not empty, and the text is the fallback only if there is no response. -/
structure PartUnion (e : Endpoint) (success : Bool) (fallback : String) (members : List String)
    (text : String) : Prop where
  contributed : ∃ types, TypesOf (e.answers success) types ∧ (∀ t ∈ types, t ≠ "") ∧
    FirstOccurrences types members
  text : text = if e.answers success = [] then fallback else Text.join " | " members

/-- the members of the two unions of a binding -/
structure ResponseUnions (e : Endpoint) (b : Binding) (successes errors : List String) : Prop where
  success : PartUnion e true "void" successes b.responseType
  error : PartUnion e false "unknown" errors b.errorType

section
variable {e : Endpoint} {success : Bool} {fallback : String} {types : List String}

theorem partUnion_of_types (h : TypesOf (e.answers success) types) :
    PartUnion e success fallback types.eraseDups (unionOr fallback types.eraseDups) := by
  refine ⟨⟨types, h, fun t ht => ?_, .eraseDups types⟩, ?_⟩
  · obtain ⟨_, _, hpayload⟩ := exists_mem_of_forall₂ h.flip ht
    exact payloadType_ne_empty hpayload
  · have hnone : types.eraseDups = [] ↔ e.answers success = [] := by
      generalize e.answers success = payloads at h
      cases h with
      | nil => exact iff_of_true rfl rfl
      | cons _ _ =>
        rw [List.eraseDups_cons]
        exact iff_of_false (List.cons_ne_nil _ _) (List.cons_ne_nil _ _)
    simp only [unionOr, hnone]

end

/-! ## other responses -/

def Endpoint.withResponses (e : Endpoint)
    (responses : List (String × Option (Referable Payload))) : Endpoint :=
  { e with operation := { e.operation with responses := some responses } }

def responseDeclaration? (name type : String) : Option Declaration :=
  if type.toList.contains '{' then some (declare (name ++ "Response") type true) else none

def Binding.withTypes (b : Binding) (responseType errorType : String) : Binding :=
  { b with
    responseType := responseType
    errorType := errorType
    responseDeclaration :=
      b.responseDeclaration.map fun d => { d with expression := responseType } }

variable {d : Description} {e : Endpoint} {seen : List String} {b : Binding}

/-- **Other responses change nothing but the types of responses** and what is declared for them. -/
theorem bind_withResponses (h : d.bind e seen = .ok b)
    {responses : List (String × Option (Referable Payload))} {responseType errorType : String}
    (hresponse : payloadUnionOr "void" ((e.withResponses responses).answers true) =
      .ok responseType)
    (herror : payloadUnionOr "unknown" ((e.withResponses responses).answers false) =
      .ok errorType) :
    d.bind (e.withResponses responses) seen = .ok
      { b with
        responseType := responseType
        errorType := errorType
        responseDeclaration := responseDeclaration? b.name responseType } := by
  obtain ⟨sorted, hbuilt⟩ := Description.bind_eq_ok_iff_parts.mp h
  have hpath : (e.withResponses responses).path = e.path := rfl
  have hmethod : (e.withResponses responses).method = e.method := rfl
  have hsplit := Endpoint.split_congr hpath hmethod
  refine Description.bind_eq_ok_iff_parts.mpr ⟨sorted, ?_⟩
  exact {
    id := hbuilt.id
    sort := hbuilt.sort
    path := by
      rw [Endpoint.placeholders_congr hpath hmethod, ← hbuilt.path]
      exact placeholderParameters_congr hpath hmethod fun _ _ => rfl
    query := hbuilt.query
    trailing := by
      rw [hsplit]
      exact hbuilt.trailing
    response := by rw [← hresponse, Description.answers_true]
    error := by rw [← herror, Description.answers_false]
    body := hbuilt.body
    name := hbuilt.name
    method := hbuilt.method
    route := by rw [hsplit, ← hbuilt.route]
    summary := hbuilt.summary
    description := hbuilt.description
    declaration := rfl
    polling := hbuilt.polling }

/-! ## other orders -/

theorem mem_join_iff {c : Char} {sep : String} (hsep : c ∉ sep.toList) (texts : List String) :
    c ∈ (Text.join sep texts).toList ↔ ∃ t ∈ texts, c ∈ t.toList := by
  induction texts with
  | nil => simp
  | cons t texts ih =>
    cases texts with
    | nil => simp
    | cons t' texts =>
      rw [Text.join_cons_cons, String.toList_append, String.toList_append, List.mem_append,
        List.mem_append, ih, List.exists_mem_cons_iff _ t]
      simp only [hsep, or_false]

/-- two members or more are a compound -/
theorem isCompound_join {members : List String}
    (h : ∀ t ∈ members, ∃ summands, Written t summands)
    (htwo : 2 ≤ members.length) : isCompound (Text.join " | " members) = true := by
  obtain ⟨parts, hparts⟩ := exists_forall₂ h
  have hne : members ≠ [] := by
    rintro rfl
    exact absurd htwo (by decide)
  rw [(Written.join_bar hparts hne).isCompound_iff]
  left
  have hlength : members.length ≤ parts.flatten.length := by
    clear htwo hne h
    induction hparts with
    | nil => exact Nat.le_refl 0
    | cons hpart _ ih =>
      have hpos := List.length_pos_iff.mpr hpart.ne_nil
      rw [List.length_cons, List.flatten_cons, List.length_append]
      omega
  omega

/-- A union is a record only if it has one member, and then there is no other order. -/
theorem isRecordLiteral_of_perm {members members' : List String}
    (h : ∀ t ∈ members, ∃ summands, Written t summands) (hperm : members'.Perm members) :
    isRecordLiteral (Text.join " | " members') = isRecordLiteral (Text.join " | " members) := by
  have hcompound : ∀ ts : List String, (∀ t ∈ ts, ∃ summands, Written t summands) →
      2 ≤ ts.length → isRecordLiteral (Text.join " | " ts) = false := by
    intro ts hts htwo
    rw [← Bool.not_eq_true, isRecordLiteral_iff, isCompound_join hts htwo]
    rintro ⟨_, _, hcontra⟩
    cases hcontra
  rcases Nat.lt_or_ge members.length 2 with hone | htwo
  · have hsame : members' = members := by
      match members, hone with
      | [], _ => exact hperm.eq_nil
      | [t], _ => exact hperm.eq_singleton
    rw [hsame]
  · rw [hcompound members h htwo, hcompound members' (fun t ht => h t (hperm.mem_iff.mp ht))
      (hperm.length_eq ▸ htwo)]

theorem responseDeclaration?_of_perm {name : String} {members members' : List String}
    (h : ∀ t ∈ members, ∃ summands, Written t summands) (hperm : members'.Perm members) :
    responseDeclaration? name (unionOr "void" members') =
      (responseDeclaration? name (unionOr "void" members)).map fun d =>
        { d with expression := unionOr "void" members' } := by
  by_cases hnil : members = []
  · subst hnil
    rw [hperm.eq_nil]
    rfl
  · have hnil' : members' ≠ [] := by
      rintro rfl
      exact hnil hperm.nil_eq.symm
    have hbrace : (Text.join " | " members').toList.contains '{' =
        (Text.join " | " members).toList.contains '{' := by
      rw [Bool.eq_iff_iff, List.contains_iff_mem, List.contains_iff_mem,
        mem_join_iff (by decide), mem_join_iff (by decide)]
      exact exists_congr fun t => and_congr_left' hperm.mem_iff
    unfold responseDeclaration? unionOr declare
    rw [if_neg hnil, if_neg hnil', hbrace, isRecordLiteral_of_perm h hperm]
    split <;> rfl

/-! ## further responses -/

theorem payloadUnionOr_append {fallback label type : String} {payload : Option (Referable Payload)}
    {payloads : List (String × Option (Referable Payload))} {types : List String}
    (h : TypesOf payloads types) (hpayload : payloadType label payload = .ok type)
    (hmem : type ∈ types) :
    payloadUnionOr fallback (payloads ++ [(label, payload)]) =
      .ok (unionOr fallback types.eraseDups) := by
  refine payloadUnionOr_eq_ok_iff.mpr ⟨types ++ [type], ?_, ?_⟩
  · exact List.rel_append h (.cons hpayload .nil)
  · rw [FirstOccurrences.append_of_mem hmem]

theorem answers_append (e : Endpoint) (success : Bool)
    (entry : String × Option (Referable Payload)) :
    (e.withResponses (e.operation.responses.getD [] ++ [entry])).answers success =
      e.answers success ++ if isSuccess entry.1 = success then [entry] else [] := by
  unfold Endpoint.answers Endpoint.withResponses
  rw [Option.getD_some, List.filter_append, List.filter_singleton]
  cases isSuccess entry.1 <;> cases success <;> rfl

theorem answers_perm (success : Bool) {responses : List (String × Option (Referable Payload))}
    (h : responses.Perm (e.operation.responses.getD [])) :
    ((e.withResponses responses).answers success).Perm (e.answers success) :=
  h.filter fun entry : String × Option (Referable Payload) => isSuccess entry.1 == success

/-! ## bindings -/

theorem isSuccess_iff {status : String} : isSuccess status = true ↔
    ∃ rest, status.toList = '2' :: rest ∨ status.toList = '3' :: rest := by
  unfold isSuccess
  cases status.toList with
  | nil => simp
  | cons c rest => simp [exists_or]

/-- the types of responses in another order, in that order -/
theorem TypesOf.perm {payloads payloads' : List (String × Option (Referable Payload))}
    {types : List String} (h : TypesOf payloads types) (hperm : payloads'.Perm payloads) :
    ∃ types', TypesOf payloads' types' ∧ types'.Perm types :=
  List.perm_comp_forall₂ hperm h

/-- the types of the responses of a binding, those of the successes and those of the errors -/
structure BoundTypes (e : Endpoint) (b : Binding) (good bad : List String) : Prop where
  successes : TypesOf (e.answers true) good
  errors : TypesOf (e.answers false) bad
  response : b.responseType = unionOr "void" good.eraseDups
  error : b.errorType = unionOr "unknown" bad.eraseDups
  declaration : b.responseDeclaration = responseDeclaration? b.name b.responseType

theorem exists_boundTypes (h : d.bind e seen = .ok b) : ∃ good bad, BoundTypes e b good bad := by
  obtain ⟨_, hbuilt⟩ := Description.bind_eq_ok_iff_parts.mp h
  have hresponse := hbuilt.response
  have herror := hbuilt.error
  rw [← Description.answers_true] at hresponse
  rw [← Description.answers_false] at herror
  obtain ⟨good, hgood, hgoodText⟩ := payloadUnionOr_eq_ok_iff.mp hresponse
  obtain ⟨bad, hbad, hbadText⟩ := payloadUnionOr_eq_ok_iff.mp herror
  exact ⟨good, bad, hgood, hbad, hgoodText, hbadText, hbuilt.declaration⟩

namespace BoundTypes

variable {good bad : List String}

theorem unions (h : BoundTypes e b good bad) :
    ResponseUnions e b good.eraseDups bad.eraseDups := by
  refine ⟨?_, ?_⟩
  · rw [h.response]
    exact partUnion_of_types h.successes
  · rw [h.error]
    exact partUnion_of_types h.errors

/-- a further response with a type that its part has already changes nothing -/
theorem bind_further (h : BoundTypes e b good bad) (hbind : d.bind e seen = .ok b)
    {status type : String} {payload : Option (Referable Payload)}
    (htype : payloadType status payload = .ok type)
    (hmem : type ∈ if isSuccess status then good else bad) :
    d.bind (e.withResponses (e.operation.responses.getD [] ++ [(status, payload)])) seen =
      .ok b := by
  have hresponse := payloadUnionOr_eq_ok_iff.mpr ⟨good, h.successes, h.response⟩
  have herror := payloadUnionOr_eq_ok_iff.mpr ⟨bad, h.errors, h.error⟩
  have hsame : d.bind (e.withResponses (e.operation.responses.getD [] ++ [(status, payload)]))
      seen = .ok
        { b with
          responseType := b.responseType
          errorType := b.errorType
          responseDeclaration := responseDeclaration? b.name b.responseType } := by
    cases hsuccess : isSuccess status with
    | true =>
      rw [hsuccess, if_pos rfl] at hmem
      refine bind_withResponses hbind ?_ ?_
      · rw [answers_append, if_pos hsuccess, payloadUnionOr_append h.successes htype hmem,
          h.response]
      · rw [answers_append, if_neg (by simp [hsuccess]), List.append_nil, herror]
    | false =>
      rw [hsuccess, if_neg Bool.false_ne_true] at hmem
      refine bind_withResponses hbind ?_ ?_
      · rw [answers_append, if_neg (by simp [hsuccess]), List.append_nil, hresponse]
      · rw [answers_append, if_pos hsuccess, payloadUnionOr_append h.errors htype hmem, h.error]
  rw [hsame, ← h.declaration]

/-- in another order of the responses only the types of the responses are put together anew -/
theorem bind_reordered (h : BoundTypes e b good bad) (hbind : d.bind e seen = .ok b)
    {responses : List (String × Option (Referable Payload))}
    (hperm : responses.Perm (e.operation.responses.getD [])) :
    ∃ good' bad' b', good'.Perm good ∧ bad'.Perm bad ∧
      d.bind (e.withResponses responses) seen = .ok b' ∧
      b' = b.withTypes b'.responseType b'.errorType ∧
      BoundTypes (e.withResponses responses) b' good' bad' := by
  obtain ⟨good', hgood, hgoodPerm⟩ := h.successes.perm (answers_perm true hperm)
  obtain ⟨bad', hbad, hbadPerm⟩ := h.errors.perm (answers_perm false hperm)
  refine ⟨good', bad', _, hgoodPerm, hbadPerm,
    bind_withResponses hbind (payloadUnionOr_eq_ok_iff.mpr ⟨good', hgood, rfl⟩)
      (payloadUnionOr_eq_ok_iff.mpr ⟨bad', hbad, rfl⟩), ?_, hgood, hbad, rfl, rfl, rfl⟩
  have hwritten : ∀ t ∈ good.eraseDups, ∃ summands, Written t summands := by
    intro t ht
    obtain ⟨_, _, hpayload⟩ := exists_mem_of_forall₂ h.successes.flip (List.mem_eraseDups.mp ht)
    exact (payloadType_written hpayload).1
  have hmembers := (FirstOccurrences.eraseDups good').perm (.eraseDups good) hgoodPerm
  rw [responseDeclaration?_of_perm hwritten hmembers, ← h.response, Binding.withTypes,
    h.declaration]

end BoundTypes

/-- **Every response adds its type to one of two unions**, that of the successes or that of the
errors, where a type stands once and in the place in which it occurs first; the text of a union is
`void` or `unknown` only if the type of a response is, or if no response is there.  A further
response with a type that its part has already changes nothing, and in another order of the
responses only the members of the two unions change places. -/
theorem bind_response_unions (h : d.bind e seen = .ok b) :
    (∀ status, isSuccess status = true ↔
        ∃ rest, status.toList = '2' :: rest ∨ status.toList = '3' :: rest) ∧
      ∃ successes errors, ResponseUnions e b successes errors ∧
        (∀ status payload type, payloadType status payload = .ok type →
          type ∈ (if isSuccess status then successes else errors) →
            d.bind (e.withResponses (e.operation.responses.getD [] ++ [(status, payload)])) seen =
              .ok b) ∧
        ∀ responses, responses.Perm (e.operation.responses.getD []) →
          ∃ successes' errors' b', successes'.Perm successes ∧ errors'.Perm errors ∧
            d.bind (e.withResponses responses) seen = .ok b' ∧
            b' = b.withTypes b'.responseType b'.errorType ∧
            ResponseUnions (e.withResponses responses) b' successes' errors' := by
  refine ⟨fun _ => isSuccess_iff, ?_⟩
  obtain ⟨good, bad, htypes⟩ := exists_boundTypes h
  refine ⟨good.eraseDups, bad.eraseDups, htypes.unions, ?_, ?_⟩
  · intro status payload type htype hmem
    refine htypes.bind_further h htype ?_
    rwa [← apply_ite, List.mem_eraseDups] at hmem
  · intro responses hperm
    obtain ⟨good', bad', b', hgood, hbad, hb', hsame, htypes'⟩ := htypes.bind_reordered h hperm
    exact ⟨good'.eraseDups, bad'.eraseDups, b',
      (FirstOccurrences.eraseDups good').perm (.eraseDups good) hgood,
      (FirstOccurrences.eraseDups bad').perm (.eraseDups bad) hbad, hb', hsame, htypes'.unions⟩

/-- an operation that answers with a pet in two of its responses -/
def answeredPet : Endpoint where
  path := "/pets"
  method := .post
  operation :=
    { operationId := .value "addPet"
      summary := .absent
      description := .absent
      parameters := .absent
      requestBody := .absent
      responses := some [("201", some (.ref "#/components/responses/Pet")), ("204", none),
        ("200", some (.ref "#/components/responses/Pet")),
        ("default", some (.ref "#/components/responses/Failure"))]
      extras := [] }
  shared := .absent

/-- A further response without content changes nothing, and the responses backwards give the same
members. -/
theorem bind_answeredPet_unions :
    ∃ b, bareDescription.bind answeredPet [] = .ok b ∧
      b.responseType = "PetResponse | void" ∧ b.errorType = "FailureResponse" ∧
      bareDescription.bind (answeredPet.withResponses
        (answeredPet.operation.responses.getD [] ++ [("202", none)])) [] = .ok b ∧
      ∃ b', bareDescription.bind (answeredPet.withResponses
          (answeredPet.operation.responses.getD []).reverse) [] = .ok b' ∧
        b' = b.withTypes b'.responseType b'.errorType := by
  have h : bareDescription.bind answeredPet [] = .ok
      { operationId := "addPet", name := "AddPet", method := "post", route := "/pets",
        pathParameters := [], queryParameters := [], responseType := "PetResponse | void",
        errorType := "FailureResponse", bodyType := some "void", summary := none
        description := none, trailing := none, responseDeclaration := none, polling := false } :=
    toOption_eq_some.mp (by decide +kernel)
  obtain ⟨_, successes, errors, hunions, happend, hreorder⟩ := bind_response_unions h
  obtain ⟨_, _, b', _, _, hb', hsame, _⟩ := hreorder _ (List.reverse_perm _)
  have hvoid : "void" ∈ successes := by
    obtain ⟨types, htypes, _, hfirst⟩ := hunions.success.contributed
    have hanswer : ("204", none) ∈ answeredPet.answers true :=
      List.mem_filter.mpr ⟨.tail _ (.head _), by decide⟩
    obtain ⟨type, htype, hpayload⟩ := exists_mem_of_forall₂ htypes hanswer
    cases hpayload
    exact (hfirst.mem_iff _).mpr htype
  exact ⟨_, h, rfl, rfl, happend "202" none "void" rfl hvoid, b', hb', hsame⟩

end ApiBindings
