import ModuleNats.Aot.Certify
import ModuleNats.Aot.Elf
import ModuleNats.Aot.Exact
import ModuleNats.Aot.ModuleInfo
import ModuleNats.Aot.Preserve
import ModuleNats.Aot.Reader
import ModuleNats.CStrings
import ModuleNats.ChannelSubscription.Active
import ModuleNats.ChannelSubscription.Callbacks
import ModuleNats.ChannelSubscription.Closing
import ModuleNats.ChannelSubscription.Delivery
import ModuleNats.ChannelSubscription.Drain
import ModuleNats.ChannelSubscription.Ending
import ModuleNats.ChannelSubscription.FailedDrain
import ModuleNats.ChannelSubscription.Model
import ModuleNats.ChannelSubscription.Steps
import ModuleNats.Connection.FileAccess
import ModuleNats.Connection.Flush
import ModuleNats.Connection.Model
import ModuleNats.Connection.Options
import ModuleNats.Connection.Owners
import ModuleNats.Connection.Release
import ModuleNats.Connection.Reports
import ModuleNats.Connection.Steps
import ModuleNats.DataProvider.Configs
import ModuleNats.DataProvider.Credentials
import ModuleNats.DataProvider.Payload
import ModuleNats.DateTime
import ModuleNats.EventProvider.Failure
import ModuleNats.EventProvider.JetStreamPush
import ModuleNats.EventProvider.Model
import ModuleNats.EventProvider.Protocol
import ModuleNats.EventProvider.Pull
import ModuleNats.EventProvider.Silence
import ModuleNats.EventProvider.Steps
import ModuleNats.EventProvider.Stopping
import ModuleNats.Fork
import ModuleNats.ForkExit
import ModuleNats.IntegerOptions
import ModuleNats.Interruption
import ModuleNats.JetStream.AckPending
import ModuleNats.JetStream.Calls
import ModuleNats.JetStream.ConsumerConfig
import ModuleNats.JetStream.KeyValueConfig
import ModuleNats.JetStream.Pause
import ModuleNats.JetStream.StreamConfig
import ModuleNats.JetStream.Values
import ModuleNats.JetStream.Workers
import ModuleNats.KeyValue.Calls
import ModuleNats.KeyValue.ChannelWatch
import ModuleNats.KeyValue.Concurrency
import ModuleNats.KeyValue.Store
import ModuleNats.KeyValue.WatchDelivery
import ModuleNats.KeyValue.Watcher
import ModuleNats.Lib.Behavior
import ModuleNats.Lib.Channel
import ModuleNats.Lib.Custody
import ModuleNats.Lib.Logged
import ModuleNats.Lib.Ownership
import ModuleNats.Lib.Packed
import ModuleNats.Lib.Record
import ModuleNats.Lib.RefCount
import ModuleNats.Lib.SlicedWait
import ModuleNats.Lib.StopFlag
import ModuleNats.Lib.Storage
import ModuleNats.Lib.Text
import ModuleNats.Lib.Transition
import ModuleNats.Lib.Versions
import ModuleNats.Messages
import ModuleNats.MicroService.Contexts
import ModuleNats.MicroService.Model
import ModuleNats.MicroService.References
import ModuleNats.MicroService.Reports
import ModuleNats.MicroService.Requests
import ModuleNats.MicroService.Steps
import ModuleNats.NatsHelper
import ModuleNats.ReplyMux.Correlation
import ModuleNats.ReplyMux.Deadline
import ModuleNats.ReplyMux.Effect
import ModuleNats.ReplyMux.Model
import ModuleNats.ReplyMux.Ownership
import ModuleNats.ReplyMux.Release
import ModuleNats.ReplyMux.Steps
import ModuleNats.ReplyMux.Wakeup
import ModuleNats.Sandbox.Dialer
import ModuleNats.Sandbox.Mediation
import ModuleNats.Sandbox.NetworkCheck
import ModuleNats.Sandbox.PollTimeout
import ModuleNats.SlicedCall
import ModuleNats.Subject
import ModuleNats.Subscription
import ModuleNats.Subscription.Fetch
import ModuleNats.Subscription.LastMsg
import ModuleNats.Subscription.NextMsg
import ModuleNats.Subscription.Reports
import ModuleNats.Url
