import Mathlib.Data.List.Induction
import CoachingApi.Common.TenantLifelines
import CoachingApi.Surfaces.RouteRoles

/-!
# What is known of leads after any run

An answered call creates a lead, sets its status or whom it is assigned to, or adds a note to it;
nothing else touches leads, and none is ever deleted. So the list of an institute shows every lead
that it ever created, the newest first, with the status and the assignment set last and with all
notes in the order in which they were added.
-/

namespace CoachingApi

open TenantModel TenantPlugin TenantContextStore Lifelines

/-- What a call changes of a lead. -/
inductive LeadChange where
  | fields (dto : UpdateLeadDto)
  | noted (note : LeadNote)

namespace LeadChange

/-- The status that a change sets. -/
def status : LeadChange → Option LeadStatus
  | .fields dto => dto.status
  | .noted _ => none

/-- Whom a change assigns the lead to. -/
def assignedTo : LeadChange → Option ObjectId
  | .fields dto => dto.assignedTo.map MongoId.id
  | .noted _ => none

/-- The note that a change adds. -/
def added : LeadChange → Option LeadNote
  | .fields _ => none
  | .noted note => some note

end LeadChange

namespace LeadsService

/-- A change of a lead. -/
def change : LeadChange → Lead → Lead
  | .fields dto => changeLead dto
  | .noted note => pushNote note

/-- A lead as it is told: the status and the assignment set last, and all notes. -/
def told (changes : List LeadChange) (lead : Lead) : Lead :=
  { lead with
    status := (changes.filterMap LeadChange.status).getLast?.getD lead.status
    assignedTo := (changes.filterMap LeadChange.assignedTo).getLast?.or lead.assignedTo
    notes := lead.notes ++ changes.filterMap LeadChange.added }

/-- One more change is told. -/
theorem told_more (changes : List LeadChange) (made : LeadChange) (lead : Lead) :
    told (changes ++ [made]) lead = change made (told changes lead) := by
  cases made with
  | noted note =>
    simp [told, change, pushNote, List.filterMap_append, LeadChange.status, LeadChange.assignedTo,
      LeadChange.added]
  | fields dto =>
    obtain ⟨status, assignedTo⟩ := dto
    cases status <;> cases assignedTo <;>
      simp [told, change, changeLead, List.filterMap_append, LeadChange.status,
        LeadChange.assignedTo, LeadChange.added]

/-- A lead that was changed is as it is told.

Proof: by induction on the changes, from the last one. -/
theorem changed_told (changes : List LeadChange) (lead : Lead) :
    changes.foldl (fun current made => change made current) lead = told changes lead := by
  induction changes using List.reverseRecOn with
  | nil => simp [told]
  | append_singleton earlier made inductionHypothesis =>
    rw [List.foldl_append, inductionHypothesis, told_more]
    rfl

/-- A change keeps the identity of a lead. -/
theorem change_keeps (made : LeadChange) (lead : Lead) : (change made lead).id = lead.id := by
  cases made <;> rfl

end LeadsService

namespace TenantApi

/-- What a call makes of leads: what it asks for, if it is answered. -/
def leadEvents (deployment : TenantApiDeployment) (campus : Campus) (call : Call) :
    List (Event Lead ObjectId LeadChange) :=
  match admitted deployment call, call.request, (handle deployment campus call).2 with
  | .ok user, .createLead generated dto, .ok _ =>
    [.born { LeadsService.createdLead generated dto with tenantId := user.tenantId }]
  | .ok _, .updateLead idText dto, .ok _ =>
    (ObjectId.cast idText).toList.map (fun target => .changed target (.fields dto))
  | .ok user, .addNote now idText text, .ok _ =>
    match ObjectId.cast idText, newObjectId user.userId with
    | some target, .ok author =>
      [.changed target (.noted { text := text, at_ := now, by_ := some author })]
    | _, _ => []
  | _, _, _ => []

/-- Leads live the events of a history, in which none is removed. -/
def LivesLeads (campus : Campus) (events : List (Event Lead ObjectId LeadChange)) : Prop :=
  Lives TenantModel.id LeadsService.change campus.leads events ∧
    ∀ target, .removed target ∉ events

/-- A creation of a lead that is answered gives birth to the lead that it asks for. -/
theorem create_lead_lives {ambient : Ambient} {tenantId : String} (bound : Bound ambient tenantId)
    {campus : Campus} {events : List (Event Lead ObjectId LeadChange)}
    (lives : LivesLeads campus events) (generated : ObjectId) (dto : CreateLeadDto) :
    (∃ thrown, LeadsService.create ambient generated dto campus = (campus, .error thrown)) ∨
    ∃ lead leads,
      LeadsService.create ambient generated dto campus =
        ({ campus with leads := leads }, .ok lead) ∧
      LivesLeads { campus with leads := leads }
        (events ++
          [.born { LeadsService.createdLead generated dto with tenantId := tenantId }]) := by
  unfold LeadsService.create
  split
  · exact .inl ⟨_, rfl⟩
  · rename_i lead leads created
    have unborn := create_unborn LeadsService.change_keeps lives.1 lives.2 created
    refine .inr ⟨lead, leads, rfl, create_lives bound lives.1 created unborn, ?_⟩
    intro target member
    rcases List.mem_append.mp member with old | new
    · exact lives.2 target old
    · cases List.mem_singleton.mp new

/-- A change of a lead that is answered is one under the identity that its text casts to. -/
theorem update_lead_lives {ambient : Ambient} {tenantId : String} (bound : Bound ambient tenantId)
    {campus : Campus} {events : List (Event Lead ObjectId LeadChange)}
    (lives : LivesLeads campus events) (text : String) (made : LeadChange) :
    (∃ thrown, LeadsService.updateLead ambient text (LeadsService.change made) campus =
      (campus, .error thrown)) ∨
    ∃ target lead leads, ObjectId.cast text = some target ∧
      LeadsService.updateLead ambient text (LeadsService.change made) campus =
        ({ campus with leads := leads }, .ok lead) ∧
      LivesLeads { campus with leads := leads } (events ++ [.changed target made]) := by
  unfold LeadsService.updateLead
  split
  · exact .inl ⟨_, rfl⟩
  · exact .inl ⟨_, rfl⟩
  · rename_i lead leads found
    obtain ⟨target, casts, changed⟩ := update_lives bound LeadsService.change_keeps lives.1 found
    refine .inr ⟨target, lead, leads, casts, rfl, changed, ?_⟩
    intro other member
    rcases List.mem_append.mp member with old | new
    · exact lives.2 other old
    · cases List.mem_singleton.mp new

/-- A call keeps leads living what calls make of them. -/
theorem after_lives_leads (deployment : TenantApiDeployment) {campus : Campus} (call : Call)
    {events : List (Event Lead ObjectId LeadChange)} (lives : LivesLeads campus events) :
    LivesLeads (after deployment campus call)
      (events ++ leadEvents deployment campus call) := by
  have unchanged : LivesLeads campus (events ++ []) := by
    rw [List.append_nil]
    exact lives
  apply @after_keeps_history _ deployment campus call .leads _ _ _ lives
  · intro next same kept
    have leads : next.leads = campus.leads := same
    rw [LivesLeads, leads]
    exact kept
  · intro thrown admits
    simp only [leadEvents, admits]
  · intro user admits written
    cases request : call.request with
    | createLead | updateLead | addNote =>
      rw [request] at written
      simp [TenantRequest.writes] at written
    | _ => simp only [leadEvents, admits, request]
  intro user admits bound served written
  cases request : call.request with
  | createLead generated dto =>
    have ended : handle deployment campus call =
        kept .lead (LeadsService.create (intercept user.tenantId) generated dto campus) := by
      rw [served, request]
      rfl
    rcases create_lead_lives bound lives generated dto with
      ⟨thrown, refused⟩ | ⟨lead, leads, answered, born⟩
    · simp only [leadEvents, after, admits, request, ended, refused, kept, Except.map]
      exact unchanged
    · simp only [leadEvents, after, admits, request, ended, answered, kept, Except.map]
      exact born
  | updateLead text dto =>
    have ended : handle deployment campus call =
        kept .lead (LeadsService.updateLead (intercept user.tenantId) text
          (LeadsService.change (.fields dto)) campus) := by
      rw [served, request]
      rfl
    rcases update_lead_lives bound lives text (.fields dto) with
      ⟨thrown, refused⟩ | ⟨target, lead, leads, casts, answered, changed⟩
    · simp only [leadEvents, after, admits, request, ended, refused, kept, Except.map]
      exact unchanged
    · simp only [leadEvents, after, admits, request, ended, answered, kept, Except.map, casts,
        Option.toList_some, List.map_cons, List.map_nil]
      exact changed
  | addNote now text note =>
    have ended : handle deployment campus call =
        kept .lead (LeadsService.addNote (intercept user.tenantId) now text note user.userId
          campus) := by
      rw [served, request]
      rfl
    cases author : newObjectId user.userId with
    | error thrown =>
      simp only [leadEvents, after, admits, request, ended, LeadsService.addNote, author, kept,
        Except.map]
      exact unchanged
    | ok by_ =>
      have noting : LeadsService.addNote (intercept user.tenantId) now text note user.userId campus =
          LeadsService.updateLead (intercept user.tenantId) text (LeadsService.change
            (.noted { text := note, at_ := now, by_ := some by_ })) campus := by
        simp only [LeadsService.addNote, author]
        rfl
      rw [noting] at ended
      rcases update_lead_lives bound lives text
          (.noted { text := note, at_ := now, by_ := some by_ }) with
        ⟨thrown, refused⟩ | ⟨target, lead, leads, casts, answered, changed⟩
      · simp only [leadEvents, after, admits, request, ended, refused, kept, Except.map]
        exact unchanged
      · simp only [leadEvents, after, admits, request, ended, answered, kept, Except.map, casts,
          author]
        exact changed
  | _ =>
    rw [request] at written
    simp [TenantRequest.writes] at written

/-- The list of an institute's leads tells what all calls before it were answered for, whichever
they were and from whichever institutes: it shows each lead that was created for the institute, the
newest first, with the status and the assignment that were set last and with every note that was
added, in order; or those of them with a status that is asked for.

Proof: the leads live what the calls make of them, and none of them is removed. -/
theorem leads_tell_calls (deployment : TenantApiDeployment) {start : Campus}
    (distinct : Records.Distinct Lead.id start.leads) (calls : List Call) {ambient : Ambient}
    {tenantId : String} (bound : Bound ambient tenantId) (status : Option String) :
    let events := start.leads.map .born ++
      Runs.outputs (after deployment) (leadEvents deployment) start calls
    LeadsService.list ambient status (Runs.run (after deployment) start calls) =
      .ok (((births events).map (fun lead => LeadsService.told (changes lead.id events) lead)).filter
        (fun lead => decide (lead.tenantId = tenantId) &&
          decide (∀ given ∈ present status, lead.status.value = given))).reverse := by
  intro events
  have opened : LivesLeads start (start.leads.map .born) := by
    refine ⟨lives_start distinct, ?_⟩
    intro target member
    obtain ⟨lead, _, same⟩ := List.mem_map.mp member
    cases same
  have ended : LivesLeads (Runs.run (after deployment) start calls) events :=
    Runs.run_follows LivesLeads (fun _ call _ lives => after_lives_leads deployment call lives)
      opened calls
  have told : lived TenantModel.id LeadsService.change events =
      fun lead => LeadsService.told (changes lead.id events) lead :=
    funext (fun lead => LeadsService.changed_told (changes lead.id events) lead)
  have leads : (Runs.run (after deployment) start calls).leads =
      (births events).map (fun lead => LeadsService.told (changes lead.id events) lead) := by
    rw [ended.1.survive, survivors_unremoved ended.2, told]
  rw [LeadsService.list, find_bound bound, leads]
  rfl

/-- A lead is called, called back and won over, while another institute has a lead of its own. -/
def chasedLead : List Call :=
  let teach := callOf "institute-a" .teacher (.repeated '1')
  [leadOf "institute-a" "Bela" (.repeated 'a'),
    teach (.addNote 1 (ObjectId.repeated 'a').hex "Called"),
    leadOf "institute-b" "Dev" (.repeated 'b'),
    teach (.updateLead (ObjectId.repeated 'a').hex { status := some .contacted }),
    teach (.addNote 2 (ObjectId.repeated 'a').hex "Called back"),
    teach (.addNote 3 (ObjectId.repeated 'b').hex "Not found"),
    teach (.updateLead (ObjectId.repeated 'a').hex { status := some .converted })]

/-- The lead is listed with both notes and the status that was set last. -/
theorem chased_lead_listed :
    LeadsService.list (some { tenantId := some "institute-a" }) none
        (Runs.run (after quiet) {} chasedLead) =
      .ok [{ id := .repeated 'a', tenantId := "institute-a", name := "Bela",
             phone := "+91 98000 00000", status := .converted
             notes := [{ text := "Called", at_ := 1, by_ := some (.repeated '1') },
                       { text := "Called back", at_ := 2, by_ := some (.repeated '1') }] }] := by
  rw [leads_tell_calls quiet (by decide) chasedLead (bound_run "institute-a" (by decide)) none]
  decide +kernel

end TenantApi

end CoachingApi
