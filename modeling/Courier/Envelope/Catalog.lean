import Courier.Envelope.Basic

namespace Courier

/-! The catalog of domain events: each kind of event has a topic, an event type
and a payload record of string fields, written in camel case. A payload is read
from JSON with the record's field checks and written back as an object whose
keys are sorted. -/

inductive DomainEvent where
  | postLiked
  | postUnliked
  | commentCreated
  | userFollowed
  | userRegistered
  | postCreated
  | postDeleted
  deriving DecidableEq, Repr

namespace DomainEvent

def ofName? : String → Option DomainEvent
  | "post_liked" => some .postLiked
  | "post_unliked" => some .postUnliked
  | "comment_created" => some .commentCreated
  | "user_followed" => some .userFollowed
  | "user_registered" => some .userRegistered
  | "post_created" => some .postCreated
  | "post_deleted" => some .postDeleted
  | _ => none

/-- The topic the events of a kind go to. -/
def topic : DomainEvent → String
  | .postLiked | .postUnliked | .commentCreated | .userFollowed => "interaction-events"
  | .userRegistered => "user-events"
  | .postCreated | .postDeleted => "content-events"

def eventType : DomainEvent → String
  | .postLiked => "post.liked"
  | .postUnliked => "post.unliked"
  | .commentCreated => "comment.created"
  | .userFollowed => "user.followed"
  | .userRegistered => "user.registered"
  | .postCreated => "post.created"
  | .postDeleted => "post.deleted"

def recordName : DomainEvent → String
  | .postLiked => "PostLiked"
  | .postUnliked => "PostUnliked"
  | .commentCreated => "CommentCreated"
  | .userFollowed => "UserFollowed"
  | .userRegistered => "UserRegistered"
  | .postCreated => "PostCreated"
  | .postDeleted => "PostDeleted"

/-- The fields of the payload record, in declaration order. -/
def fields : DomainEvent → List String
  | .postLiked | .postUnliked => ["postId", "userId"]
  | .commentCreated => ["commentId", "postId", "userId"]
  | .userFollowed => ["followerId", "followingId"]
  | .userRegistered => ["userId", "username"]
  | .postCreated | .postDeleted => ["postId", "authorId"]

/-- Insert a member into an object's members sorted by key. -/
def insertMember (member : String × Json) : List (String × Json) → List (String × Json)
  | [] => [member]
  | m :: rest => if member.1 < m.1 then member :: m :: rest else m :: insertMember member rest

/-- Read a payload of this kind, giving it back as an object with sorted keys. -/
def readPayload (kind : DomainEvent) (value : Json) : Except ShapeError Json := do
  let values ← value.recordFields kind.recordName (kind.fields.map fun name => .of name Json.asText)
  let texts ← values.mapM Json.asText
  return .object ((kind.fields.zip (texts.map Json.string)).foldr insertMember [])

end DomainEvent

example : (DomainEvent.postLiked.readPayload (.object [("postId", .string "p"), ("userId", .string "u")])).toOption.isSome = true := by decide

end Courier
