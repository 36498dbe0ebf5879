/-
What reaches those who send requests.  A response that cannot be written is replaced
by an error, which returns no record; so what is returned is part of what the sink
took, and all of it exactly if every response that returns a record is written.
-/
import ContactPrivacy.Proofs.Http.Exchange
import ContactPrivacy.Proofs.Lists

namespace ContactPrivacy.Http

/-- The records that the responses to some requests return, in their order. -/
def returnedRecords (requests : List Request) (responses : List Response) : List Json :=
  (requests.zip responses).flatMap fun (request, response) => response.returned request

/-- Every response that returns a record is written. -/
def Written (writes : Request → Response → Bool) (requests : List Request)
    (responses : List Response) : Prop :=
  ∀ exchange ∈ requests.zip responses,
    exchange.2.returned exchange.1 ≠ [] → writes exchange.1 exchange.2 = true

namespace Response

variable {writes : Request → Response → Bool} {request : Request} {requests : List Request}
  {responses : List Response}

theorem returned_sent (response : Response) (request : Request) (written : Bool) :
    (response.sent written).returned request =
      if written then response.returned request else [] := by
  cases written with
  | true => rfl
  | false => exact returned_of_error request (Nat.ne_of_beq_eq_false rfl)

theorem sublist_returned_sent (response : Response) (request : Request) (written : Bool) :
    ((response.sent written).returned request).Sublist (response.returned request) := by
  rw [returned_sent]
  split
  · exact List.Sublist.refl _
  · exact List.nil_sublist _

/-- What a response returns is what is sent of it, unless it returns a record and
is not written. -/
theorem returned_sent_eq_iff (response : Response) (request : Request) (written : Bool) :
    (response.sent written).returned request = response.returned request ↔
      (response.returned request ≠ [] → written = true) := by
  rw [returned_sent]
  cases written with
  | true => simp
  | false =>
      simp only [Bool.false_eq_true, if_false, imp_false, ne_eq, not_not]
      exact eq_comm

theorem length_sentAll (hanswered : responses.length = requests.length) :
    (sentAll writes requests responses).length = requests.length := by
  rw [sentAll, List.length_zipWith, hanswered, Nat.min_self]

/-- Responses that are all written are sent as they are. -/
theorem sentAll_of_written (hanswered : responses.length = requests.length)
    (hwritten : ∀ exchange ∈ requests.zip responses, writes exchange.1 exchange.2 = true) :
    sentAll writes requests responses = responses := by
  induction requests generalizing responses with
  | nil => exact (List.eq_nil_of_length_eq_zero hanswered).symm
  | cons request rest ih =>
      obtain ⟨response, later, rfl⟩ := List.exists_cons_of_length_eq_add_one hanswered
      obtain ⟨hfirst, hlater⟩ := List.forall_mem_cons.mp hwritten
      have hrest := ih (Nat.succ.inj hanswered) hlater
      rw [sentAll] at hrest
      rw [sentAll, List.zipWith_cons_cons, hrest, hfirst]
      rfl

theorem sublist_returnedRecords_sentAll (writes : Request → Response → Bool)
    (requests : List Request) (responses : List Response) :
    (returnedRecords requests (sentAll writes requests responses)).Sublist
      (returnedRecords requests responses) := by
  induction requests generalizing responses with
  | nil => exact List.Sublist.refl _
  | cons request rest ih =>
      cases responses with
      | nil => exact List.Sublist.refl _
      | cons response later =>
          exact (response.sublist_returned_sent request _).append (ih later)

/-- Nothing that was stored is missing from what is sent exactly if whatever returns
a record is written. -/
theorem returnedRecords_sentAll_eq_iff (writes : Request → Response → Bool)
    (requests : List Request) (responses : List Response) :
    returnedRecords requests (sentAll writes requests responses) =
        returnedRecords requests responses ↔
      Written writes requests responses := by
  induction requests generalizing responses with
  | nil => simp [returnedRecords, Written]
  | cons request rest ih =>
      cases responses with
      | nil => simp [returnedRecords, Written, sentAll]
      | cons response later =>
          have hfirst := response.sublist_returned_sent request (writes request response)
          have hlater := sublist_returnedRecords_sentAll writes rest later
          have hwritten : Written writes (request :: rest) (response :: later) ↔
              (response.returned request ≠ [] → writes request response = true) ∧
                Written writes rest later := List.forall_mem_cons
          rw [hwritten, ← ih later, ← returned_sent_eq_iff]
          exact Lists.append_eq_append_iff_of_sublist hfirst hlater

end Response

end ContactPrivacy.Http
