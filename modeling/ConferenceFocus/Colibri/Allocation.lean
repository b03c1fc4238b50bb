import ConferenceFocus.Colibri.Conference
import ConferenceFocus.Colibri.Failure
import ConferenceFocus.Media.Content

/-!
# Taking in allocation replies

`Conference.merge` checks an allocation reply against the conference held so
far and takes in what is new in it.  What is already known by its identifier
stays as it was.  A reply that fails a check leaves no trace.
-/

namespace ConferenceFocus.Colibri

namespace Content

/-- Takes in the channels and connections whose identifiers are new. -/
def absorb (content reply : Content) : Content :=
  { content with
    channels := Keyed.appendAll content.channels reply.channels,
    connections := Keyed.appendAll content.connections reply.connections }

end Content

namespace Conference

/-- The conference a reply is about, once the reply is found fit to be merged:
it names the conference held, if one is, and every channel and connection. -/
def validate (conference reply : Conference) : Except Failure ConferenceId :=
  match reply.id with
  | none => .error .anonymousReply
  | some id =>
      match conference.id.filter (· ≠ id) with
      | some expected => .error (.foreignReply id expected)
      | none =>
          match reply.contents.find? (·.hasUnnamed) with
          | some content => .error (.unnamedChannel content.media)
          | none => .ok id

/-- Takes in a reply about the conference called `id`, without checks. -/
def absorb (conference reply : Conference) (id : ConferenceId) : Conference :=
  { id := some id,
    name := conference.name.or reply.name,
    contents := reply.contents.foldl
      (fun contents content => modifyContent content.media (·.absorb content) contents)
      conference.contents,
    bundles := Keyed.appendAll conference.bundles reply.bundles }

def merge (conference reply : Conference) : Except Failure Conference :=
  (conference.validate reply).map (conference.absorb reply)

/-- The part of a reply about the media that were asked for. -/
def restrictTo (reply : Conference) (requested : List MediaContent) : Conference :=
  { reply with
    contents := reply.contents.filter fun content =>
      requested.any fun request => request.media = content.media }

end Conference

end ConferenceFocus.Colibri
