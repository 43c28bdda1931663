import MockCloud.Proofs.Cloud.Operation
import MockCloud.Proofs.Mail.Recording
import MockCloud.Proofs.Role.Filing

/-! # Where the backends of a cloud stand

Each backend belongs to the place under which it is kept, and what it keeps stands there under its own names. The
services see to this for their own operations; a notice that mail publishes moves no topic.

* `CloudService.Filed`: a backend and what it keeps are in their places.
* `filed_place`: the tagged backends of any site are, after every run. -/

namespace MockCloud

/-- The backend belongs to the place, and what it keeps stands where its names say. -/
def CloudService.Filed : (k : CloudService) → Scope → k.State → Prop
  | .roles => Role.Directory.Filed
  | .topics => Topic.Board.Filed
  | .pipelines => Pipeline.Catalog.Filed
  | .network => Network.Filed
  | .mail => fun scope (o : Mail.Office) => o.scope = scope
  | .buckets => Bucket.Shelf.Filed

theorem CloudService.filed_new (k : CloudService) (scope : Scope) : k.Filed scope (Backend.new scope) := by
  cases k with
  | roles => exact Role.Directory.filed_blank scope
  | topics => exact Topic.Board.filed_blank scope
  | pipelines => exact Pipeline.Catalog.filed_blank scope
  | network => exact Network.filed_blank scope
  | mail => rfl
  | buckets => exact Bucket.Shelf.filed_blank scope

/-- No operation moves an office. -/
theorem Mail.Post.scope_step (p : Post) (op : Op) : (p.step op).1.scope = p.1.scope := by
  have effect := p.perform_effect op
  unfold Post.step
  generalize p.perform op = o at effect ⊢
  cases effect with
  | office op =>
    obtain ⟨_, _, _, _, same⟩ := p.1.exists_state_perform op
    show (p.1.perform op).state.scope = p.1.scope
    rw [same]
  | _ => rfl

/-- Mail changes topics only by what it publishes. -/
theorem Mail.Post.filed_step {scope : Scope} {p : Post} (h : p.2.Filed scope) (op : Op) :
    (p.step op).2.Filed scope := by
  have effect := p.perform_effect op
  unfold Post.step
  generalize p.perform op = o at effect ⊢
  cases effect with
  | topic op => exact (p.2.perform_effect op).filed h
  | _ => exact ⟨h.home, h.each⟩

namespace Cloud

theorem kept_filed : Rule.Kept CloudService.Filed where
  new := CloudService.filed_new
  roles _ _ op h := Role.Directory.Filed.step h op
  topics _ b op h := (b.perform_effect op).filed h
  pipelines _ c op h := (c.perform_effect op).filed h
  network _ n op h := (n.perform_effect op).filed h
  post _ p op mail topics := ⟨(p.scope_step op).trans mail, Mail.Post.filed_step topics op⟩
  buckets _ s op h := (s.perform_effect op).filed h

/-- **The tagged backends of a site are in their places** after every run, whatever account and region the site
names. -/
theorem filed_place (config : Config) (steps : List (Step Op)) (s : Site) :
    ((after config steps).place s).Filed { account := s.account, region := s.region } := by
  have filed := ((obeys_empty _ config).run kept_filed steps).place kept_filed s
  exact ⟨filed.pipelines, filed.network, filed.topics, filed.buckets⟩

end Cloud

end MockCloud
