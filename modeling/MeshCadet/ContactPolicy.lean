import MeshCadet.BoundedList
import MeshCadet.Crypto

namespace MeshCadet

/-!
# The contact allowlist

A device talks to the contacts it was given and to nobody else.  A contact is
looked up by the first byte of its public key, and the contact that was added
first is the one found.
-/

/-- Contacts the allowlist holds. -/
def maxPolicyContacts : Nat :=
  16

/-- A contact of the allowlist. -/
structure PolicyContact where
  pubkey : Key
  telemetry : Bool
deriving Repr, DecidableEq

/-- The contact's routing hash. -/
def PolicyContact.hash
    (contact : PolicyContact) :
    UInt8 :=
  pubHash contact.pubkey

/-- The allowlist. -/
abbrev PolicyFilter : Type :=
  BoundedList PolicyContact maxPolicyContacts

namespace PolicyFilter

/-- No contacts. -/
def new : PolicyFilter :=
  .empty

/-- Add a contact; a full list stays as it is. -/
def addContact
    (policy : PolicyFilter)
    (pubkey : Key)
    (telemetry : Bool) :
    PolicyFilter :=
  (policy.push? { pubkey := pubkey, telemetry := telemetry }).getD policy

/-- The first contact with a hash. -/
def find
    (policy : PolicyFilter)
    (hash : UInt8) :
    Option PolicyContact :=
  policy.elements.find? fun contact => contact.hash == hash

/-- A message from the hash may be processed. -/
def allowInboundDm
    (policy : PolicyFilter)
    (srcHash : UInt8) :
    Bool :=
  policy.elements.any fun contact => contact.hash == srcHash

/-- The public key behind a hash. -/
def contactPubkey
    (policy : PolicyFilter)
    (srcHash : UInt8) :
    Option Key :=
  (policy.find srcHash).map PolicyContact.pubkey

/-- The contact behind a hash may ask for the position. -/
def telemetryEnabled
    (policy : PolicyFilter)
    (srcHash : UInt8) :
    Bool :=
  ((policy.find srcHash).map PolicyContact.telemetry).getD false

/-- Add contacts one after the other. -/
def addContacts
    (policy : PolicyFilter)
    (contacts : List PolicyContact) :
    PolicyFilter :=
  contacts.foldl
    (fun policy contact =>
      policy.addContact contact.pubkey contact.telemetry)
    policy

/-- Contacts that fit are all on the list, in the order they were added. -/
theorem addContacts_elements
    (policy : PolicyFilter)
    (contacts : List PolicyContact)
    (fit :
      policy.elements.length + contacts.length ≤ maxPolicyContacts) :
    (policy.addContacts contacts).elements =
      policy.elements ++ contacts := by
  induction contacts generalizing policy with
  | nil => simp [addContacts]
  | cons contact rest inductionHypothesis =>
      simp only [List.length_cons] at fit
      have pushed :
          (policy.addContact contact.pubkey contact.telemetry).elements =
            policy.elements ++ [contact] := by
        cases isPushed : policy.push? contact with
        | none =>
            have full := BoundedList.push?_eq_none_iff.mp isPushed
            omega
        | some added =>
            have elements := BoundedList.push?_eq_some_iff.mp isPushed
            simpa [addContact, isPushed] using elements
      have later :=
        inductionHypothesis
          (policy.addContact contact.pubkey contact.telemetry) (by
            rw [pushed, List.length_append, List.length_singleton]
            omega)
      rw [pushed, List.append_assoc] at later
      exact later

/-- Contacts that fit are the whole list of a new policy. -/
theorem elements_new_addContacts
    {contacts : List PolicyContact}
    (fit : contacts.length ≤ maxPolicyContacts) :
    (new.addContacts contacts).elements = contacts := by
  simpa [new, BoundedList.empty] using
    new.addContacts_elements contacts
      (by simpa [new, BoundedList.empty] using fit)

/-- Who is found may send. -/
theorem allowInboundDm_of_find
    {policy : PolicyFilter}
    {srcHash : UInt8}
    {contact : PolicyContact}
    (found : policy.find srcHash = some contact) :
    policy.allowInboundDm srcHash = true := by
  have member := List.mem_of_find?_eq_some found
  have isHash := List.find?_some found
  exact List.any_eq_true.mpr ⟨contact, member, isHash⟩

/-- Among contacts with different keys, a contact is the one found under its hash
exactly when none with the same hash was added before it. -/
theorem find_addContacts_iff
    {earlier later : List PolicyContact}
    {contact : PolicyContact}
    (fit :
      (earlier ++ contact :: later).length ≤ maxPolicyContacts)
    (distinct :
      ((earlier ++ contact :: later).map PolicyContact.pubkey).Nodup) :
    (new.addContacts (earlier ++ contact :: later)).find contact.hash =
        some contact ↔
      ∀ other ∈ earlier, other.hash ≠ contact.hash := by
  rw [find, elements_new_addContacts fit]
  constructor
  · intro found other member same
    rw [List.find?_append] at found
    cases foundEarlier :
        earlier.find? fun candidate =>
          candidate.hash == contact.hash with
    | none =>
        have noneSame := List.find?_eq_none.mp foundEarlier other member
        simp [same] at noneSame
    | some first =>
        rw [foundEarlier, Option.some_or, Option.some_inj] at found
        subst found
        have isEarlier := List.mem_of_find?_eq_some foundEarlier
        rw [List.map_append, List.map_cons, List.nodup_append] at distinct
        exact distinct.2.2 _ (List.mem_map_of_mem isEarlier) _
          List.mem_cons_self rfl
  · intro noEarlier
    have noneFound :
        (earlier.find? fun candidate =>
          candidate.hash == contact.hash) = none := by
      simpa using noEarlier
    simp [List.find?_append, noneFound]

end PolicyFilter

end MeshCadet
