import MockCloud.Mail.Template
import MockCloud.Network.Acl
import MockCloud.Network.Gateway
import MockCloud.Network.Vpc
import MockCloud.Proofs.Mail.Operation
import MockCloud.Proofs.Pipeline.Operation
import MockCloud.Proofs.Role.Operation
import MockCloud.Proofs.Store.Refinement
import MockCloud.Proofs.Topic.Operation

/-! # The kinds of resources and their ids

What is known of stores whose resources carry their ids holds of every store of the library but one: a pipeline takes
its name from the declaration that it is given, and a declaration may have another name. The catalog changes a
pipeline only under the name of the new declaration.

* `Role.keepsIds` and its like: the kind carries its ids.
* `Pipeline.not_keepsIds`: pipelines do not. -/

namespace MockCloud

theorem Role.keepsIds : KeepsIds Role String where
  made _ _ _ r made := by
    rw [(make_eq_ok made).2]
    rfl
  changed r c _ := by
    change (r.change c).state.name = r.name
    rcases change_cases r c with ⟨-, h⟩ | ⟨-, _, -, -, h⟩ | ⟨-, -, h⟩ <;> rw [h] <;> rfl

theorem Topic.keepsIds : KeepsIds Topic String where
  made _ _ _ _ made := by
    rw [(Board.make_eq_ok_iff.1 made).2]
    rfl
  changed _ _ _ := rfl

namespace Network

theorem Vpc.keepsIds : KeepsIds Vpc String where
  made _ _ _ _ made := by
    obtain ⟨_, _, -, -, rfl⟩ := make_eq_ok made
    rfl
  changed _ _ _ := rfl

theorem Subnet.keepsIds : KeepsIds Subnet String where
  made _ _ _ _ made := by
    obtain ⟨_, -, rfl⟩ := make_eq_ok_iff.1 made
    rfl
  changed _ _ _ := rfl

theorem Acl.keepsIds : KeepsIds Acl String where
  made _ _ _ _ made := by
    obtain ⟨_, -, rfl⟩ := make_eq_ok made
    rfl
  changed _ _ _ := rfl

theorem PublicAddress.keepsIds : KeepsIds PublicAddress String where
  made _ _ _ _ made := by
    rw [make_eq_ok made]
    rfl
  changed _ _ _ := rfl

theorem Gateway.keepsIds : KeepsIds Gateway String where
  made _ _ _ _ made := by
    obtain ⟨_, -, rfl⟩ := make_eq_ok made
    rfl
  changed _ _ _ := rfl

end Network

namespace Mail

theorem ConfigurationSet.keepsIds : KeepsIds ConfigurationSet String where
  made _ _ _ _ made := by
    rw [(make_eq_ok made).2.2]
    rfl
  changed _ _ _ := rfl

theorem Template.keepsIds : KeepsIds Template String where
  made name parts _ t made := by
    change parts.1.checkSubject.map _ = .ok t at made
    cases subject : parts.1.checkSubject with
    | error e => rw [subject] at made; cases made
    | ok => rw [subject] at made; cases made; rfl
  changed t parts _ := by
    change (t.change parts).state.name = t.name
    unfold Template.change
    cases parts.checkSubject <;> rfl

end Mail

namespace Pipeline

open Catalog in
/-- A pipeline that is given a declaration of another name has this name. -/
theorem not_keepsIds : ¬KeepsIds Pipeline String := by
  intro keeps
  have same := keeps.changed ⟨staged "a" 2, 1, "", ⟨0, 0⟩, ⟨0, 0⟩, .empty⟩ (staged "b" 2, ⟨0, 0⟩) site
  exact absurd same (by decide +kernel)

end Pipeline

end MockCloud
