import DoubleRatchet.Address.Written
import DoubleRatchet.Fingerprint
import DoubleRatchet.Group.Exchange
import DoubleRatchet.Proofs.Conversation.Bundle
import DoubleRatchet.Proofs.Conversation.Delivery
import DoubleRatchet.Proofs.Conversation.Links
import DoubleRatchet.Proofs.Conversation.Usable
import DoubleRatchet.Proofs.Correspondence.Delivery
import DoubleRatchet.Proofs.Correspondence.Duplicate
import DoubleRatchet.Proofs.Correspondence.Outbox
import DoubleRatchet.Proofs.Fingerprint.Devices
import DoubleRatchet.Proofs.Group.Broadcast
import DoubleRatchet.Proofs.Group.Overflow
import DoubleRatchet.Proofs.Group.Renewal
import DoubleRatchet.Proofs.Group.Speaker
import DoubleRatchet.Proofs.Handshake.Renewal
import DoubleRatchet.Proofs.Message.Exact
import DoubleRatchet.Proofs.Message.Trailer
import DoubleRatchet.Proofs.PreKey.Batch
import DoubleRatchet.Proofs.Session.Atomicity
import DoubleRatchet.Proofs.Session.Header
import DoubleRatchet.Proofs.Session.Independence
import DoubleRatchet.Proofs.Session.Memory
import DoubleRatchet.Proofs.Session.Redelivery
import DoubleRatchet.Proofs.Signature.Response
import DoubleRatchet.Proofs.Store.Failure
import DoubleRatchet.Proofs.Store.Written
import DoubleRatchet.Session.Publish
